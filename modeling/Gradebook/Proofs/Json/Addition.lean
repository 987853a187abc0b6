import Gradebook.Proofs.Json.Path

namespace Gradebook

/-!
# What is added to a value

Leaves are added to a value one after the other, each to an object that is there and
under a name that it does not have yet.  What stood in the value before stays, and when the
leaves are taken away again the value is back.

Additions inside a member of an object are additions to the object, so what is added deep
inside a value is found by adding to the innermost object first (`Json.adds_insert`) and
going outwards from there (`Json.Adds.under`).
-/

namespace Json

/-! ## Taking away -/

/-- Take away what stands at the end of a path. -/
def remove : List String → Json → Json
  | [name], .object members => .object (members.filter fun member => member.1 ≠ name)
  | name :: next :: path, .object members =>
    .object (members.map fun (key, value) =>
      (key, if key = name then remove (next :: path) value else value))
  | _, value => value

/-- Take away what stands at the ends of paths, the last one first. -/
def removeAll (paths : List (List String)) (value : Json) : Json :=
  paths.foldr remove value

variable {name : String} {path : List String} {content value inner : Json} {dict : Dict Json}
  {leaf : Leaf} {leaves : List Leaf} {before middle after : Json}

theorem member?_remove_self (name : String) (value : Json) :
    (remove [name] value).member? name = none := by
  cases value with
  | object members =>
      refine Dict.lookup_eq_none_iff.2 fun listed => ?_
      rcases List.mem_map.1 listed with ⟨member, kept, same⟩
      exact of_decide_eq_true (List.mem_filter.1 kept).2 same
  | null | bool b | number n | string s | array items => rfl

theorem member?_remove_of_ne {other : String} (differs : other ≠ name) (value : Json) :
    (remove [name] value).member? other = value.member? other := by
  cases value with
  | object members => exact Dict.lookup_filter_of_pos (· ≠ name) differs
  | null | bool b | number n | string s | array items => rfl

/-- Taking away something inside a member changes this member. -/
theorem member?_remove_inside (nested : path ≠ []) (name : String) (value : Json) :
    (remove (name :: path) value).member? name = (value.member? name).map (remove path) := by
  cases path with
  | nil => exact absurd rfl nested
  | cons next path =>
      cases value with
      | object members =>
          refine (Dict.lookup_map_snd (fun key inner =>
            if key = name then remove (next :: path) inner else inner) members name).trans ?_
          simp only [if_true, member?]
      | null | bool b | number n | string s | array items => rfl

/-- A member that was added can be taken away again. -/
theorem remove_ofDict_insert (missing : dict.get? name = none) (content : Json) :
    remove [name] (ofDict (dict.insert name content)) = ofDict dict := by
  have unlisted : name ∉ dict.keys := Dict.get?_eq_none_iff.1 missing
  apply congrArg object
  apply Dict.filter_insertEntry unlisted
  · simp only [ne_eq, not_true_eq_false, decide_false, Bool.false_eq_true, not_false_eq_true]
  · intro entry listed
    exact decide_eq_true fun same => unlisted (same ▸ List.mem_map_of_mem listed)

theorem remove_ofDict (nested : path ≠ []) (name : String) (dict : Dict Json) :
    remove (name :: path) (ofDict dict) = ofDict (dict.modify name (remove path)) := by
  cases path with
  | nil => exact absurd rfl nested
  | cons next path => rfl

/-! ## Adding -/

/-- A value is made of another one by adding leaves one after the other.  Where a leaf is
added nothing stands, and taking it away again undoes the addition. -/
inductive Adds : List Leaf → Json → Json → Prop
  | nil (value : Json) : Adds [] value value
  | cons {leaf : Leaf} {rest : List Leaf} {before after : Json} (room : before.HasRoom leaf)
    (missing : before.at? leaf.path = none)
    (undone : remove leaf.path (put leaf.path leaf.content before) = before)
    (later : Adds rest (put leaf.path leaf.content before) after) :
    Adds (leaf :: rest) before after

namespace Adds

theorem append {more : List Leaf} (earlier : Adds leaves before middle)
    (later : Adds more middle after) : Adds (leaves ++ more) before after := by
  induction earlier with
  | nil value => exact later
  | cons room missing undone _ inductionHypothesis =>
      exact .cons room missing undone (inductionHypothesis later)

/-- Without what was added the value is as before. -/
theorem removed (adds : Adds leaves before after) :
    removeAll (leaves.map Leaf.path) after = before := by
  induction adds with
  | nil value => rfl
  | @cons leaf rest before after _ _ undone _ inductionHypothesis =>
      change remove leaf.path (removeAll (rest.map Leaf.path) after) = before
      rw [inductionHypothesis, undone]

end Adds

/-- Beyond a place where nothing stands there is nothing either. -/
theorem at?_eq_none_beyond {other : List String} (missing : value.at? path = none)
    (beyond : path <+: other) : value.at? other = none := by
  rcases beyond with ⟨rest, rfl⟩
  induction path generalizing value with
  | nil => cases missing
  | cons name path inductionHypothesis =>
      rw [List.cons_append, at?]
      cases found : value.member? name with
      | none => rfl
      | some inner =>
          rw [at?, found] at missing
          exact inductionHypothesis missing

/-- What stood in the value is still there, but for the objects to which something was
added. -/
theorem Adds.kept (adds : Adds leaves before after) {path : List String} {value : Json}
    (found : before.at? path = some value) (apart : ∀ leaf ∈ leaves, ¬ path <+: leaf.path) :
    after.at? path = some value := by
  induction adds with
  | nil _ => exact found
  | @cons leaf rest before after room missing _ _ inductionHypothesis =>
      have aside : Apart leaf.path path := by
        refine ⟨fun beyond => ?_, apart leaf List.mem_cons_self⟩
        cases found.symm.trans (at?_eq_none_beyond missing beyond)
      apply inductionHypothesis
      · rw [at?_put_of_apart aside, found]
      · exact fun later listed => apart later (List.mem_cons_of_mem leaf listed)

/-! ## Adding inside an object -/

/-- A leaf of a member of an object. -/
def Leaf.under (name : String) (leaf : Leaf) : Leaf :=
  ⟨name :: leaf.path, leaf.content⟩

/-- An object takes a new member. -/
theorem adds_insert (missing : dict.get? name = none) (content : Json) :
    Adds [⟨[name], content⟩] (ofDict dict) (ofDict (dict.insert name content)) := by
  refine .cons ⟨[], name, dict.entries, rfl, rfl⟩ ?_ ?_ (.nil _)
  · rw [at?, member?_ofDict, missing, Option.bind_none]
  · exact remove_ofDict_insert missing content

/-- What is added to a member of an object is added to the object. -/
theorem Adds.under (found : dict.get? name = some inner) (adds : Adds leaves inner after) :
    Adds (leaves.map (Leaf.under name)) (ofDict dict) (ofDict (dict.insert name after)) := by
  induction adds generalizing dict with
  | nil inner =>
      rw [Dict.insert_of_get? found]
      exact .nil _
  | @cons leaf rest inner after room missing undone _ inductionHypothesis =>
      rcases leaf with ⟨path, content⟩
      rcases room with ⟨parent, last, members, rfl, stands⟩
      have nested : parent ++ [last] ≠ [] := List.append_ne_nil_of_right_ne_nil _ nofun
      have outer : put (name :: (parent ++ [last])) content (ofDict dict) =
          ofDict (dict.insert name (put (parent ++ [last]) content inner)) := by
        rw [put_ofDict, found, Option.getD_some]
      refine .cons ⟨name :: parent, last, members, rfl, ?_⟩ ?_ ?_ ?_
      · rw [at?, member?_ofDict, found]
        exact stands
      · rw [Leaf.under, at?, member?_ofDict, found]
        exact missing
      · rw [Leaf.under, outer, remove_ofDict nested, Dict.modify_insert_self, undone,
          Dict.insert_of_get? found]
      · rw [Leaf.under, outer, ← Dict.insert_insert dict name _ after]
        exact inductionHypothesis (Dict.get?_insert_self dict name _)

end Json

end Gradebook
