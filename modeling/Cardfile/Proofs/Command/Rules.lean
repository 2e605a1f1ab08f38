import Cardfile.Proofs.Command.Spelling
import Mathlib.Data.List.Nodup

/-!
# The rules for commands

A rule recognises only lines that start with its keyword, and it gives commands of its own kind
(`recognised`). No keyword starts with another one, so at most one rule recognises a line
(`eq_of_recognise`), and a line says a command exactly if the rule for commands of that kind gives
it (`ofLineWith_eq_iff`).
-/

set_option autoImplicit false
set_option relaxedAutoImplicit false

namespace Cardfile.Command

open Text

variable {line : List Char} {rule other : Rule Command} {command : Command}

/-- The name of the rule that gives commands of a kind. No rule gives messages. -/
def form : Command → String
  | .nothing => "empty"
  | .beep => "beep"
  | .go _ => "go"
  | .put _ _ => "put"
  | .get _ => "get"
  | .answer _ => "answer"
  | .find _ => "find"
  | .message => "message"

/-- The words that commands start with, which are the names of their rules. -/
def keywords : List String :=
  ["beep", "go", "put", "get", "answer", "find"]

/-! ### What one rule recognises -/

/-- A line that a rule of a name may recognise: it starts with the name as a keyword, or there is
nothing on it. -/
def MayBe (form : String) (line : List Char) : Prop :=
  form ∈ keywords ∧ (takeWord? form.toList line).isSome = true ∨ form = "empty" ∧ isEnd line = true

theorem mayBe_of_takeWord? {keyword : String} (hkeyword : keyword ∈ keywords)
    (h : (takeWord? keyword.toList line).isSome = true) : MayBe keyword line :=
  Or.inl ⟨hkeyword, h⟩

theorem recognised (hrule : rule ∈ rules) (h : rule.recognise line = some command) :
    command.form = rule.form ∧ MayBe rule.form line := by
  simp only [rules, List.mem_cons, List.not_mem_nil, or_false] at hrule
  rcases hrule with rfl | rfl | rfl | rfl | rfl | rfl | rfl
  · dsimp only at h
    split_ifs at h with hend
    cases h
    exact ⟨rfl, Or.inr ⟨rfl, hend⟩⟩
  · dsimp only [beep?] at h
    split_ifs at h with hphrase
    cases h
    exact ⟨rfl, mayBe_of_takeWord? (by decide) (Option.isSome_of_any hphrase)⟩
  · obtain ⟨rest, hrest, rfl⟩ := Option.map_eq_some_iff.mp h
    exact ⟨rfl, mayBe_of_takeWord? (by decide)
      (Option.isSome_of_isSome_bind (Option.isSome_of_eq_some hrest))⟩
  · obtain ⟨rest, hword, hrest⟩ := Option.bind_eq_some_iff.mp h
    obtain ⟨⟨middle, name⟩, -, hrest⟩ := Option.bind_eq_some_iff.mp hrest
    obtain ⟨expression, -, hput⟩ := Option.bind_eq_some_iff.mp hrest
    cases hput
    exact ⟨rfl, mayBe_of_takeWord? (by decide) (Option.isSome_of_eq_some hword)⟩
  · obtain ⟨rest, hword, hrest⟩ := Option.bind_eq_some_iff.mp h
    obtain ⟨name, -, hget⟩ := Option.bind_eq_some_iff.mp hrest
    cases hget
    exact ⟨rfl, mayBe_of_takeWord? (by decide)
      (Option.isSome_of_isSome_bind (Option.isSome_of_eq_some hword))⟩
  · obtain ⟨rest, hword, hrest⟩ := Option.bind_eq_some_iff.mp h
    obtain ⟨expression, -, hanswer⟩ := Option.bind_eq_some_iff.mp hrest
    cases hanswer
    exact ⟨rfl, mayBe_of_takeWord? (by decide) (Option.isSome_of_eq_some hword)⟩
  · obtain ⟨rest, hword, hrest⟩ := Option.bind_eq_some_iff.mp h
    obtain ⟨expression, -, hfind⟩ := Option.bind_eq_some_iff.mp hrest
    cases hfind
    exact ⟨rfl, mayBe_of_takeWord? (by decide) (Option.isSome_of_eq_some hword)⟩

/-! ### At most one rule -/

/-- A line on which there is nothing starts with no keyword. -/
theorem takeWord?_of_isEnd (hend : isEnd line = true) {keyword : String}
    (hkeyword : keyword ∈ keywords) : takeWord? keyword.toList line = none := by
  have hline : line = [] ∨ line = ['\n'] := by simpa [isEnd] using hend
  have hnone : ∀ keyword ∈ keywords,
      takeWord? keyword.toList [] = none ∧ takeWord? keyword.toList ['\n'] = none := by
    decide
  rcases hline with rfl | rfl
  · exact (hnone keyword hkeyword).1
  · exact (hnone keyword hkeyword).2

theorem MayBe.unique {form other : String} (h : MayBe form line) (hother : MayBe other line) :
    form = other := by
  have hapart : ∀ keyword ∈ keywords, ∀ other ∈ keywords,
      keyword.toList <+: other.toList → keyword = other := by
    decide
  rcases h with ⟨hkeyword, htake⟩ | ⟨rfl, hend⟩
  · rcases hother with ⟨hother, hothertake⟩ | ⟨rfl, hend⟩
    · rcases isPrefix_or_of_takeWord? htake hothertake with hprefix | hprefix
      · exact hapart form hkeyword other hother hprefix
      · exact (hapart other hother form hkeyword hprefix).symm
    · simp [takeWord?_of_isEnd hend hkeyword] at htake
  · rcases hother with ⟨hother, hothertake⟩ | ⟨rfl, -⟩
    · simp [takeWord?_of_isEnd hend hother] at hothertake
    · rfl

theorem eq_of_form_eq (hrule : rule ∈ rules) (hother : other ∈ rules)
    (hform : rule.form = other.form) : rule = other := by
  have hforms : (rules.map Rule.form).Nodup := by decide
  exact List.inj_on_of_nodup_map hforms hrule hother hform

/-- At most one rule recognises a line. -/
theorem eq_of_recognise (hrule : rule ∈ rules) (hother : other ∈ rules)
    (h : (rule.recognise line).isSome = true) (hothers : (other.recognise line).isSome = true) :
    rule = other := by
  obtain ⟨command, hcommand⟩ := Option.isSome_iff_exists.mp h
  obtain ⟨second, hsecond⟩ := Option.isSome_iff_exists.mp hothers
  exact eq_of_form_eq hrule hother
    ((recognised hrule hcommand).2.unique (recognised hother hsecond).2)

/-! ### What a line says -/

theorem go_mem_rules : ⟨"go", go?⟩ ∈ rules := by simp [rules]

theorem put_mem_rules : ⟨"put", put?⟩ ∈ rules := by simp [rules]

theorem get_mem_rules : ⟨"get", get?⟩ ∈ rules := by simp [rules]

theorem answer_mem_rules : ⟨"answer", answer?⟩ ∈ rules := by simp [rules]

theorem find_mem_rules : ⟨"find", find?⟩ ∈ rules := by simp [rules]

/-- A line says a command exactly if the rule for commands of that kind gives it. -/
theorem ofLineWith_eq_iff (hrule : rule ∈ rules) (hform : rule.form = command.form) :
    ofLineWith rules line = command ↔ rule.recognise line = some command := by
  unfold ofLineWith
  constructor
  · intro h
    cases hfirst : Rule.first? rules line with
    | none =>
      -- A line that no rule recognises is a message, and no rule gives those.
      rw [hfirst] at h
      obtain rfl : Command.message = command := h
      have hmessage : ∀ rule ∈ rules.map Rule.form, rule ≠ "message" := by decide
      exact absurd hform (hmessage _ (List.mem_map_of_mem hrule))
    | some first =>
      rw [hfirst] at h
      obtain rfl : first = command := h
      obtain ⟨found, hfound, hgives⟩ := List.exists_of_findSome?_eq_some hfirst
      have hsame : rule = found :=
        eq_of_form_eq hrule hfound (hform.trans (recognised hfound hgives).1)
      rw [hsame]
      exact hgives
  · intro h
    cases hfirst : Rule.first? rules line with
    | none =>
      have hnone := List.findSome?_eq_none_iff.mp hfirst rule hrule
      simp [h] at hnone
    | some first =>
      obtain ⟨found, hfound, hgives⟩ := List.exists_of_findSome?_eq_some hfirst
      have hsame : rule = found := eq_of_recognise hrule hfound (Option.isSome_of_eq_some h)
        (Option.isSome_of_eq_some hgives)
      rw [← hsame, h] at hgives
      exact (Option.some.inj hgives).symm

/-- A line that starts with the keyword of a rule which does not recognise it is a message. -/
theorem ofLineWith_eq_message (hrule : rule ∈ rules) (hstarts : MayBe rule.form line)
    (hnone : rule.recognise line = none) : ofLineWith rules line = .message := by
  unfold ofLineWith
  cases hfirst : Rule.first? rules line with
  | none => rfl
  | some first =>
    obtain ⟨found, hfound, hgives⟩ := List.exists_of_findSome?_eq_some hfirst
    have hsame : rule = found :=
      eq_of_form_eq hrule hfound (hstarts.unique (recognised hfound hgives).2)
    rw [← hsame, hnone] at hgives
    cases hgives

/-- A line that starts as a `go` line does is understood as one. -/
theorem ofLineWith_of_go (h : (takeWordAndBlanks? "go" line).isSome = true) :
    ofLineWith rules line = .go (Going.ofLine? line) := by
  obtain ⟨rest, hrest⟩ := Option.isSome_iff_exists.mp h
  refine (ofLineWith_eq_iff go_mem_rules rfl).mpr ?_
  show go? line = some (.go (Going.ofLine? line))
  rw [go?, hrest]
  rfl

/-- Only the rule for `go` lines gives one. -/
theorem eq_ofLine?_of_ofLineWith {going? : Option Going}
    (h : ofLineWith rules line = .go going?) : going? = Going.ofLine? line := by
  have hgo : go? line = some (.go going?) :=
    (ofLineWith_eq_iff go_mem_rules rfl).mp h
  obtain ⟨rest, -, hgoing⟩ := Option.map_eq_some_iff.mp hgo
  exact (Command.go.inj hgoing).symm

end Cardfile.Command
