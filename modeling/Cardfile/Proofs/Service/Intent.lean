import Cardfile.Proofs.Schema.Bounds
import Cardfile.Service.Action

/-!
# What a request can set

The action that a request with a body orders is built from the members of a record that was read in
the dialect of bodies (`Service.exists_members_of_intent`). So no number that a request sets a
property to is a long one (`Service.isShort_of_intent`), and no line is longer than a body may say
(`Service.length_le_of_intent`).
-/

set_option autoImplicit false
set_option relaxedAutoImplicit false

namespace Cardfile

open Schema Text

/-- A property value that is no number or a short one. -/
def PropertyValue.IsShort (value : PropertyValue) : Prop :=
  ∀ n, value.whole? = some n → Text.IsShort n

namespace Service

variable {request : Request} {route : Route} {body : Option Json} {action : Action}

/-! ### Bodies -/

theorem isShort_of_propertyValue {dialect : Json.Dialect} {json : Json} {value : PropertyValue}
    (hjson : Json.IsWithin dialect json) (h : propertyValue json = .valid value) :
    value.IsShort := by
  intro n hn
  obtain ⟨⟨label, reader⟩, hreader, hread⟩ := exists_of_firstOf_eq_valid h
  simp only [List.mem_cons, Prod.mk.injEq, List.not_mem_nil, or_false] at hreader
  rcases hreader with ⟨-, rfl⟩ | ⟨-, rfl⟩
  · obtain ⟨text, -, rfl⟩ := Checked.map_eq_valid_iff.mp hread
    obtain ⟨characters, -, hn⟩ := Option.bind_eq_some_iff.mp hn
    exact isShort_readWhole? hn
  · obtain ⟨m, hm, rfl⟩ := Checked.map_eq_valid_iff.mp hread
    cases hn
    exact isShort_wholeNumber hjson hm

theorem isWithin_of_readBody {json : Json} (h : readBody request = .ok (some json)) :
    ∃ encoding, Json.IsWithin (bodyDialect encoding) json := by
  unfold readBody at h
  split at h
  · cases h
  · split at h
    · cases h
    · next encoding chars _ =>
      split at h
      · next hread =>
        cases h
        exact ⟨encoding, Json.isWithin_readChars hread⟩
      · cases h
      · cases h

theorem exists_of_readMembers_eq_valid {build : List (String × Json) → Checked Action}
    (h : readMembers body build = .valid action) :
    ∃ members, body = some (.record members) ∧ build members = .valid action := by
  unfold readMembers at h
  rw [Checked.under_eq_valid_iff] at h
  cases body with
  | none => cases h
  | some json =>
    cases json with
    | record members => exact ⟨members, rfl, h⟩
    | _ => cases h

theorem exists_of_bodyAction_eq_valid {build : List (String × Json) → Int → Checked Action}
    (h : bodyAction route body build = .valid action) :
    ∃ members id, body = some (.record members) ∧ build members id = .valid action := by
  unfold bodyAction at h
  split at h
  · next id _ =>
    obtain ⟨members, hbody, hbuild⟩ := exists_of_readMembers_eq_valid h
    exact ⟨members, id, hbody, hbuild⟩
  · split at h <;> cases h

/-! ### Intents -/

theorem ofChecked_eq_order_iff {checked : Checked Action} :
    Intent.ofChecked body checked = .order action ↔ checked = .valid action := by
  cases checked <;> simp [Intent.ofChecked]

/-- An action that says nothing, or no more than a count. -/
def isBare : Action → Bool
  | .showView | .listCards | .closeField | .previousLine | .nextLine | .readEvents _ => true
  | _ => false

theorem exists_members_of_route_intent (h : route.intent request = .order action)
    (hbare : isBare action = false) :
    ∃ build encoding members id, bodyReader? route = some build ∧
      Json.MembersWithin (bodyDialect encoding) members ∧ build members id = .valid action := by
  unfold Route.intent at h
  split at h
  · next build hbuild =>
    split at h
    · cases h
    · next body hbody =>
      obtain ⟨members, id, rfl, haction⟩ :=
        exists_of_bodyAction_eq_valid (ofChecked_eq_order_iff.mp h)
      obtain ⟨encoding, hwithin⟩ := isWithin_of_readBody hbody
      exact ⟨build, encoding, members, id, hbuild, hwithin, haction⟩
  · split at h
    case h_7 =>
      obtain ⟨_, -, rfl⟩ := Checked.map_eq_valid_iff.mp (ofChecked_eq_order_iff.mp h)
      cases hbare
    all_goals cases h
    all_goals cases hbare

/-- An action that is not bare is built from the members of a body. -/
theorem exists_members_of_intent (h : request.intent = .order action)
    (hbare : isBare action = false) :
    ∃ route build encoding members id, bodyReader? route = some build ∧
      Json.MembersWithin (bodyDialect encoding) members ∧ build members id = .valid action := by
  unfold Request.intent at h
  split at h
  · cases h
  · next route _ =>
    split_ifs at h with hmethod
    exact ⟨route, exists_members_of_route_intent h hbare⟩

/-- Only the body of the property route orders to set a property. -/
theorem isShort_of_intent {name : WideText} {value : PropertyValue}
    (h : request.intent = .order (.setProperty name value)) : value.IsShort := by
  obtain ⟨route, build, encoding, members, id, hbuild, hwithin, haction⟩ :=
    exists_members_of_intent h rfl
  cases route with
  | property =>
    cases hbuild
    obtain ⟨_, _, hname, hvalue, hsame⟩ := Checked.seq_eq_valid_iff.mp haction
    obtain ⟨_, -, rfl⟩ := Checked.map_eq_valid_iff.mp hname
    cases hsame
    obtain ⟨json, hmember, hread⟩ := required_eq_valid_iff.mp hvalue
    exact isShort_of_propertyValue (isWithin_member? hwithin hmember) hread
  -- Every other route with a body orders one action, and that is another one.
  | command | userLevel | cardName | openField | fieldText | script | tool =>
    cases hbuild
    obtain ⟨_, -, hsame⟩ := Checked.map_eq_valid_iff.mp haction
    cases hsame
  | _ => cases hbuild

theorem length_le_of_textUpTo {limit : Nat} {json : Json} {text : String}
    (h : textUpTo limit json = .valid text) : text.length ≤ limit :=
  Nat.le_of_not_lt (Checked.andThen_unless_eq_valid_iff.mp h).2

/-- Only the body of the command route orders to execute a line. -/
theorem length_le_of_intent {line : String} (h : request.intent = .order (.execute line)) :
    line.length ≤ lineLimit := by
  obtain ⟨route, build, encoding, members, id, hbuild, -, haction⟩ :=
    exists_members_of_intent h rfl
  cases route with
  | command =>
    cases hbuild
    obtain ⟨_, hline, hsame⟩ := Checked.map_eq_valid_iff.mp haction
    cases hsame
    obtain ⟨json, -, hread⟩ := required_eq_valid_iff.mp hline
    exact length_le_of_textUpTo hread
  | property =>
    cases hbuild
    obtain ⟨_, _, hname, -, hsame⟩ := Checked.seq_eq_valid_iff.mp haction
    obtain ⟨_, -, rfl⟩ := Checked.map_eq_valid_iff.mp hname
    cases hsame
  | userLevel | cardName | openField | fieldText | script | tool =>
    cases hbuild
    obtain ⟨_, -, hsame⟩ := Checked.map_eq_valid_iff.mp haction
    cases hsame
  | _ => cases hbuild

/-! ### Reading events -/

theorem intent_of_route (hroute : Route.ofPath? request.path = some route)
    (hmethod : request.method = route.method) : request.intent = route.intent request := by
  rw [Request.intent, hroute]
  exact if_pos hmethod

/-- Reads the latest events back. -/
def readingEvents (count : Nat) : Request where
  method := "GET"
  path := "/stack/events"
  query := [("count", decimal count)]

theorem intent_readingEvents {count : Nat} (h : IsShort count) :
    (readingEvents count).intent = .order (.readEvents count) := by
  have hroute : Route.ofPath? (readingEvents count).path = some .events := by
    show Route.ofPath? "/stack/events" = some .events
    decide +kernel
  have hcount : countParameter [("count", decimal count)] = .valid (count : Int) := by
    have hlookup : [("count", decimal count)].reverse.lookup "count" = some (decimal count) := rfl
    rw [countParameter, hlookup]
    dsimp only
    rw [Checked.under_eq_valid_iff, Checked.under_eq_valid_iff, wholeOfText, readLoosely_decimal h]
  rw [intent_of_route hroute rfl]
  show Intent.ofChecked none
    (Action.readEvents <$> countParameter [("count", decimal count)]) = _
  rw [hcount]
  rfl

end Service

end Cardfile
