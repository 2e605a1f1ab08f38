import Cardfile.Text.Percent

/-!
# Paths of requests

A path starts with one slash and holds no `.` and `..` segments. Its escapes are undone when it is
sent, and once more when it is received.
-/

set_option autoImplicit false
set_option relaxedAutoImplicit false

namespace Cardfile.Service

open Text

/-- The segments of a path without `.` ones, and without each `..` one and the segment before
it. -/
def plainSegments (segments : List (List Char)) : List (List Char) :=
  segments.foldl (fun kept segment ↦
    if segment = ['.'] then kept
    else if segment = ['.', '.'] then (if kept = [[]] then kept else kept.dropLast)
    else kept ++ [segment]) []

/-- The path that is received for a written one. -/
def receivedPath (written : List Char) : List Char :=
  let path := '/' :: written.dropWhile (· == '/')
  unescape (unescape (['/'].intercalate (plainSegments (path.splitOn '/'))))

/-- A target up to its query or fragment. -/
def pathOfTarget (target : List Char) : List Char :=
  target.takeWhile fun c ↦ c != '?' && c != '#'

end Cardfile.Service
