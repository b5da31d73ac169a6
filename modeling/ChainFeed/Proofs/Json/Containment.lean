import ChainFeed.Proofs.Json.Members

/-!
# Containment of values

An object contains an object if it has all its members with values that contain theirs, an array an
array if it has for each item one that contains it, and a scalar only an equal one. Nested objects
of one member each are contained where a walk through objects, and through objects only, leads to a
value that contains the innermost one.

## Main definitions

- `Json.isContained`: containment
- `Json.followMembers?`: the value to which a walk through objects leads

## Main results

- `Json.isContained_nestSegments`: containment of nested objects
-/

namespace ChainFeed.Json

mutual

/-- Whether a value is contained in another one. -/
def isContained : (part whole : Json) → Bool
  | .object parts, whole =>
    match whole with
    | .object members => areMembersContained parts members
    | _ => false
  | .array parts, whole =>
    match whole with
    | .array items => areItemsContained parts items
    | _ => false
  | part, whole => part.same whole

/-- Whether for each member there is one of its name that contains it. -/
def areMembersContained : List (String × Json) → Members Json → Bool
  | [], _ => true
  | (name, part) :: parts, members =>
    (members.get? name).any part.isContained && areMembersContained parts members

/-- Whether for each item there is one that contains it. -/
def areItemsContained : List Json → List Json → Bool
  | [], _ => true
  | part :: parts, items => items.any part.isContained && areItemsContained parts items

end

/-- The value under a name of an object. -/
def member? (name : String) : Json → Option Json
  | .object members => Members.get? name members
  | _ => none

/-- The value to which names lead through objects. -/
def followMembers? (value : Json) : List String → Option Json
  | [] => some value
  | name :: names => (value.member? name).bind fun next => next.followMembers? names

variable {part whole found : Json} {names : List String} {path : String}

/-- A walk through objects is a walk along the path. -/
theorem follow?_of_followMembers? (h : whole.followMembers? names = some found) :
    whole.follow? names = some found := by
  induction names generalizing whole with
  | nil => exact h
  | cons name names ih =>
    obtain ⟨next, hnext, hfound⟩ := Option.bind_eq_some_iff.mp h
    cases whole with
    | object members =>
      rw [follow?, child?, show Members.get? name members = some next from hnext]
      exact ih hfound
    | _ => exact nomatch hnext

/-- An object of one member is contained in the objects that have such a member. -/
theorem isContained_single (name : String) (part whole : Json) :
    (Json.object [(name, part)]).isContained whole = (whole.member? name).any part.isContained := by
  cases whole with
  | object members =>
    rw [isContained, areMembersContained, areMembersContained, Bool.and_true]
    rfl
  | _ => rfl

/-- Nested objects are contained where their names lead through objects to a value that contains
the innermost one. -/
theorem isContained_nestSegments :
    (nestSegments part names).isContained whole =
      (whole.followMembers? names).any part.isContained := by
  induction names generalizing whole with
  | nil => rfl
  | cons name names ih =>
    rw [nestSegments, isContained_single, followMembers?]
    cases whole.member? name with
    | none => rfl
    | some next => exact ih

theorem isContained_nest_iff :
    (nest path part).isContained whole = true ↔
      ∃ found, whole.followMembers? (segments path) = some found ∧
        part.isContained found = true := by
  rw [nest, isContained_nestSegments, Option.any_eq_true]

/-- Every object contains the empty one, and nothing else does. -/
theorem isContained_empty_iff :
    (Json.object []).isContained whole = true ↔ ∃ members, whole = .object members := by
  cases whole with
  | object members =>
    exact iff_of_true (by rw [isContained, areMembersContained]) ⟨members, rfl⟩
  | _ => exact iff_of_false Bool.false_ne_true nofun

end ChainFeed.Json
