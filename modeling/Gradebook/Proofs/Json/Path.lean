import Gradebook.Json.Basic
import Gradebook.Proofs.Dict

namespace Gradebook

namespace Json

/-!
# Paths into values

A path is a list of names and leads from an object to one of its members, from there to
a member of this one, and so on.  A value may be put at the end of a path.  Where nothing
stands on the way a new object is put, as for a member that has not been there before.

What has been put is found, and all that stands on a path apart from it stays as it is.
So a list of leaves whose paths are apart can be put in any value that has room for them,
and the result shows each of these leaves and nothing else that is new.
-/

/-- What stands at the end of a path. -/
def at? : List String → Json → Option Json
  | [], value => some value
  | name :: path, value => (value.member? name).bind (at? path)

/-- Put a value at the end of a path; what is no object stays as it is. -/
def put : List String → Json → Json → Json
  | [], content, _ => content
  | name :: path, content, .object members =>
    .object (Dict.insertEntry name
      (put path content ((members.lookup name).getD (.object []))) members)
  | _ :: _, _, value => value

/-- Whether neither of two paths leads past the end of the other. -/
def Apart (path other : List String) : Prop :=
  ¬ path <+: other ∧ ¬ other <+: path

variable {path other : List String} {name : String} {content value : Json}

theorem put_ofDict (name : String) (path : List String) (content : Json) (dict : Dict Json) :
    put (name :: path) content (ofDict dict) =
      ofDict (dict.insert name (put path content ((dict.get? name).getD (.object [])))) :=
  rfl

theorem member?_ofDict (dict : Dict Json) (name : String) :
    (ofDict dict).member? name = dict.get? name :=
  rfl

/-- Only objects have members on their paths. -/
theorem exists_object_of_at? {members : List (String × Json)}
    (found : value.at? path = some (.object members)) :
    ∃ others, value = .object others := by
  cases path with
  | nil => exact ⟨members, Option.some.inj found⟩
  | cons name path =>
      rcases Option.bind_eq_some_iff.1 found with ⟨inner, member, _⟩
      cases value with
      | object others => exact ⟨others, rfl⟩
      | null | bool b | number n | string s | array items => cases member

/-- What has been put into an object is found there. -/
theorem at?_put_self {members : List (String × Json)}
    (found : value.at? path = some (.object members)) :
    (put (path ++ [name]) content value).at? (path ++ [name]) = some content := by
  induction path generalizing value with
  | nil =>
      rcases exists_object_of_at? found with ⟨others, rfl⟩
      simp only [List.nil_append, put, at?, member?, Dict.lookup_insertEntry, if_true,
        Option.bind_some]
  | cons first path inductionHypothesis =>
      rcases exists_object_of_at? found with ⟨others, rfl⟩
      rcases Option.bind_eq_some_iff.1 found with ⟨inner, member, foundInner⟩
      have standing : (others.lookup first).getD (.object []) = inner := by
        rw [show others.lookup first = some inner from member, Option.getD_some]
      simp only [List.cons_append, put, at?, member?, Dict.lookup_insertEntry, if_true,
        Option.bind_some, standing]
      exact inductionHypothesis foundInner

theorem apart_of_length_eq (length : path.length = other.length) (different : path ≠ other) :
    Apart path other :=
  ⟨fun before => different (before.eq_of_length length),
    fun behind => different (behind.eq_of_length length.symm).symm⟩

/-- What stands on a path apart stays. -/
theorem at?_put_of_apart (apart : Apart path other) :
    (put path content value).at? other = value.at? other := by
  rcases apart with ⟨before, behind⟩
  induction path generalizing other value with
  | nil => exact absurd List.nil_prefix before
  | cons name path inductionHypothesis =>
      cases other with
      | nil => exact absurd List.nil_prefix behind
      | cons next other =>
          cases value with
          | null | bool b | number n | string s | array items => rfl
          | object members =>
              simp only [put, at?, member?, Dict.lookup_insertEntry]
              by_cases same : next = name
              · subst same
                simp only [List.cons_prefix_cons, true_and] at before behind
                rw [if_pos rfl, Option.bind_some, inductionHypothesis before behind]
                cases members.lookup next with
                | some inner => rfl
                | none =>
                    -- a new object has nothing at its end
                    cases other with
                    | nil => exact absurd List.nil_prefix behind
                    | cons _ _ => rfl
              · rw [if_neg same]

/-! ## Leaves -/

/-- A value with the path at whose end it stands. -/
structure Leaf where
  path : List String
  content : Json

/-- Put leaves one after the other. -/
def putAll (leaves : List Leaf) (value : Json) : Json :=
  leaves.foldl (fun value leaf => put leaf.path leaf.content value) value

/-- Whether a leaf belongs to an object that is there. -/
def HasRoom (value : Json) (leaf : Leaf) : Prop :=
  ∃ parent name members, leaf.path = parent ++ [name] ∧ value.at? parent = some (.object members)

/-- Whether each of some leaves belongs to an object that is there when it is put. -/
def HasRoomForAll : Json → List Leaf → Prop
  | _, [] => True
  | value, leaf :: rest =>
    value.HasRoom leaf ∧ (put leaf.path leaf.content value).HasRoomForAll rest

variable {leaves : List Leaf} {leaf : Leaf}

theorem at?_put_of_hasRoom (room : value.HasRoom leaf) :
    (put leaf.path leaf.content value).at? leaf.path = some leaf.content := by
  rcases room with ⟨parent, name, members, path, found⟩
  rw [path]
  exact at?_put_self found

/-- What stands apart from all leaves stays. -/
theorem at?_putAll_of_apart (apart : ∀ leaf ∈ leaves, Apart leaf.path other) :
    (putAll leaves value).at? other = value.at? other := by
  induction leaves generalizing value with
  | nil => rfl
  | cons leaf rest inductionHypothesis =>
      have here := apart leaf List.mem_cons_self
      have others : ∀ later ∈ rest, Apart later.path other := fun later listed =>
        apart later (List.mem_cons_of_mem leaf listed)
      exact (inductionHypothesis others).trans (at?_put_of_apart here)

/-- Leaves that are apart from each other are all found. -/
theorem at?_putAll_of_mem (distinct : leaves.Pairwise fun leaf later => Apart later.path leaf.path)
    (room : value.HasRoomForAll leaves) (listed : leaf ∈ leaves) :
    (putAll leaves value).at? leaf.path = some leaf.content := by
  induction leaves generalizing value with
  | nil => cases listed
  | cons first rest inductionHypothesis =>
      rcases room with ⟨here, roomRest⟩
      rcases List.pairwise_cons.1 distinct with ⟨apart, distinctRest⟩
      rcases List.mem_cons.1 listed with rfl | later
      · exact (at?_putAll_of_apart apart).trans (at?_put_of_hasRoom here)
      · exact inductionHypothesis distinctRest roomRest later

/-- A value is made of another one, which has room for some leaves, by putting them in. -/
structure Puts (leaves : List Leaf) (before after : Json) : Prop where
  room : before.HasRoomForAll leaves
  eq : after = putAll leaves before

theorem puts_nil (value : Json) : Puts [] value value :=
  ⟨trivial, rfl⟩

/-- Leaves are put in one list after the other. -/
theorem Puts.append {first second : List Leaf} {before middle after : Json}
    (earlier : Puts first before middle) (later : Puts second middle after) :
    Puts (first ++ second) before after := by
  rcases earlier with ⟨roomFirst, rfl⟩
  rcases later with ⟨roomSecond, rfl⟩
  refine ⟨?_, List.foldl_append.symm⟩
  induction first generalizing before with
  | nil => exact roomSecond
  | cons leaf first inductionHypothesis =>
      exact ⟨roomFirst.1, inductionHypothesis roomFirst.2 roomSecond⟩

/-- A value differs from another one by some leaves and by nothing else. -/
structure Edits (leaves : List Leaf) (before after : Json) : Prop extends
    Puts leaves before after where
  shown : ∀ leaf ∈ leaves, after.at? leaf.path = some leaf.content
  kept : ∀ path, (∀ leaf ∈ leaves, Apart leaf.path path) → after.at? path = before.at? path

/-- Leaves in different places are edited when they are put in. -/
theorem Puts.edits {before after : Json} (puts : Puts leaves before after)
    (distinct : leaves.Pairwise fun leaf later => Apart later.path leaf.path) :
    Edits leaves before after := by
  refine ⟨puts, ?_, ?_⟩ <;> rw [puts.eq]
  · exact fun leaf listed => at?_putAll_of_mem distinct puts.room listed
  · exact fun path apart => at?_putAll_of_apart apart

end Json

end Gradebook
