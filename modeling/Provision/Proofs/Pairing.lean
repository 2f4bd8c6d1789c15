import Mathlib.Data.List.Forall2
import Mathlib.Data.List.Nodup
import Provision.Association

/-!
# Lists in step

Two lists whose elements correspond one by one: what is looked up under each of some keys, and what
is computed from each element in turn.
-/

namespace Provision

variable {α β : Type}

/-! ## Computing each element -/

/-- Each element gives the one that stands in its place in the other list. -/
theorem mapM_eq_some_iff {f : α -> Option β} {xs : List α} {ys : List β} :
    xs.mapM f = some ys ↔ List.Forall₂ (fun x y => f x = some y) xs ys := by
  induction xs generalizing ys with
  | nil =>
      constructor
      · intro h
        cases h
        exact .nil
      · intro h
        cases h
        rfl
  | cons x xs ih =>
      rw [List.mapM_cons]
      constructor
      · intro h
        cases hx : f x with
        | none =>
            rw [hx] at h
            cases h
        | some y =>
            cases hxs : xs.mapM f with
            | none =>
                rw [hx, hxs] at h
                cases h
            | some rest =>
                rw [hx, hxs] at h
                cases h
                exact .cons hx (ih.mp hxs)
      · intro h
        cases h with
        | cons hx hrest =>
            rw [hx, ih.mpr hrest]
            rfl

/-- Of two lists that are zipped, the first one is left as far as the second one reaches. -/
theorem map_fst_zip_eq_take (xs : List α) (ys : List β) :
    (xs.zip ys).map Prod.fst = xs.take ys.length := by
  induction xs generalizing ys with
  | nil => exact List.take_nil.symm
  | cons x xs ih =>
      cases ys with
      | nil => rfl
      | cons y ys =>
          rw [List.zip_cons_cons, List.map_cons, ih, List.length_cons, List.take_succ_cons]

/-- Lists stay in step when elements that correspond are put in the same place of both. -/
theorem forall₂_set {related : α -> β -> Prop} {xs : List α} {ys : List β}
    (h : List.Forall₂ related xs ys) {x : α} {y : β} (hnew : related x y) (place : Nat) :
    List.Forall₂ related (xs.set place x) (ys.set place y) := by
  induction h generalizing place with
  | nil => exact .nil
  | cons hfirst hrest ih =>
      cases place with
      | zero => exact .cons hnew hrest
      | succ place => exact .cons hfirst (ih place)

theorem exists_of_forall₂ {related : α -> β -> Prop} {xs : List α} {ys : List β}
    (h : List.Forall₂ related xs ys) {x : α} (hx : x ∈ xs) : exists y, related x y := by
  induction h with
  | nil => cases hx
  | @cons first y xs ys hfirst _ ih =>
      rcases List.mem_cons.mp hx with rfl | hrest
      · exact ⟨y, hfirst⟩
      · exact ih hrest

theorem map_eq_map_iff {γ : Type} {f : α -> γ} {g : β -> γ} {xs : List α} {ys : List β} :
    xs.map f = ys.map g ↔ List.Forall₂ (fun x y => f x = g y) xs ys := by
  rw [← List.forall₂_eq_eq_eq, List.forall₂_map_left_iff, List.forall₂_map_right_iff]

/-- What stands in the places of those elements that a test keeps. -/
def sift (keeps : α -> Bool) (xs : List α) (ys : List β) : List β :=
  ((xs.zip ys).filter fun pair => keeps pair.1).map Prod.snd

/-- What is sifted is in step with the elements that are kept just if these are in step. -/
theorem forall₂_sift_iff {keeps : α -> Bool} {related : α -> β -> Prop} {xs : List α} {ys : List β}
    (hlength : xs.length = ys.length) :
    List.Forall₂ related (xs.filter keeps) (sift keeps xs ys) ↔
      List.Forall₂ (fun x y => keeps x = true -> related x y) xs ys := by
  induction xs generalizing ys with
  | nil =>
      rw [List.length_eq_zero_iff.mp hlength.symm]
      exact ⟨fun _ => .nil, fun _ => .nil⟩
  | cons x xs ih =>
      cases ys with
      | nil => cases hlength
      | cons y ys =>
          have hrest := ih (Nat.succ.inj hlength)
          rw [List.forall₂_cons, ← hrest]
          cases hkeeps : keeps x with
          | true =>
              simp only [sift, List.zip_cons_cons, List.filter_cons, hkeeps, if_true,
                List.map_cons, List.forall₂_cons, forall_const]
          | false =>
              simp only [sift, List.zip_cons_cons, List.filter_cons, hkeeps, Bool.false_eq_true,
                if_false, false_implies, true_and]

theorem length_sift {keeps : α -> Bool} {xs : List α} {ys : List β}
    (hlength : xs.length = ys.length) : (sift keeps xs ys).length = (xs.filter keeps).length := by
  have hall : List.Forall₂ (fun _ _ => True) (xs.filter keeps) (sift keeps xs ys) := by
    rw [forall₂_sift_iff hlength, List.forall₂_iff_get]
    exact ⟨hlength, fun _ _ _ _ => trivial⟩
  exact hall.length_eq.symm

/-! ## Looking up each key -/

namespace Association

variable [DecidableEq α]

/-- Under keys that are all different every entry is found. -/
theorem lookup_of_mem {entries : List (α × β)} (hkeys : (entries.map Prod.fst).Nodup)
    {entry : α × β} (h : entry ∈ entries) (more : List (α × β)) :
    (entries ++ more).lookup entry.1 = some entry.2 := by
  induction entries with
  | nil => cases h
  | cons first rest ih =>
      rw [List.map_cons, List.nodup_cons] at hkeys
      rcases List.mem_cons.mp h with rfl | hrest
      · exact List.lookup_cons_self
      · have hne : entry.1 ≠ first.1 := by
          intro heq
          apply hkeys.left
          rw [← heq]
          exact List.mem_map_of_mem hrest
        rw [List.cons_append, lookup_cons_of_ne _ _ hne]
        exact ih hkeys.right hrest

theorem mem_of_lookup {entries : List (α × β)} {key : α} {value : β}
    (h : entries.lookup key = some value) : (key, value) ∈ entries := by
  rcases List.lookup_eq_some_iff.mp h with ⟨front, back, hsplit, _⟩
  rw [hsplit]
  exact List.mem_append_right front List.mem_cons_self

theorem lookup_eq_some_iff_mem {entries : List (α × β)} (hkeys : (entries.map Prod.fst).Nodup)
    {key : α} {value : β} : entries.lookup key = some value ↔ (key, value) ∈ entries := by
  constructor
  · exact mem_of_lookup
  · intro h
    have hlookup := lookup_of_mem hkeys h []
    rw [List.append_nil] at hlookup
    exact hlookup

/-- Under keys that are all different there is what stands in their places. -/
theorem lookup_zip_getElem {keys : List α} {values : List β} (hkeys : keys.Nodup)
    (more : List (α × β)) {place : Nat} (hkey : place < keys.length)
    (hvalue : place < values.length) :
    (keys.zip values ++ more).lookup keys[place] = some values[place] := by
  induction keys generalizing values place with
  | nil => cases hkey
  | cons key keys ih =>
      rw [List.nodup_cons] at hkeys
      cases values with
      | nil => cases hvalue
      | cons value values =>
          cases place with
          | zero => exact List.lookup_cons_self
          | succ place =>
              have hplace := Nat.lt_of_succ_lt_succ hkey
              have hne : keys[place] ≠ key := by
                intro heq
                apply hkeys.left
                rw [← heq]
                exact List.getElem_mem hplace
              simp only [List.zip_cons_cons, List.cons_append, List.getElem_cons_succ]
              rw [lookup_cons_of_ne value _ hne]
              exact ih hkeys.right hplace (Nat.lt_of_succ_lt_succ hvalue)

theorem forall₂_lookup_zip {keys : List α} {values : List β} (hkeys : keys.Nodup)
    (hlength : keys.length = values.length) (more : List (α × β)) :
    List.Forall₂ (fun key value => (keys.zip values ++ more).lookup key = some value) keys
      values := by
  rw [List.forall₂_iff_get]
  constructor
  · exact hlength
  · intro place hkey hvalue
    exact lookup_zip_getElem hkeys more hkey hvalue

end Association
end Provision
