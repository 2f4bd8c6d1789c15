/-!
# Association lists

Removing a key from a list of keys with their values.
-/

namespace Provision
namespace Association

variable {α β : Type} [DecidableEq α]

/-- The entries under other keys. -/
def erase (key : α) (entries : List (α × β)) : List (α × β) :=
  entries.filter fun entry => entry.1 ≠ key

theorem erase_cons_self (key : α) (value : β) (rest : List (α × β)) :
    erase key ((key, value) :: rest) = erase key rest := by
  simp [erase]

theorem erase_cons_of_ne {key other : α} (value : β) (rest : List (α × β)) (h : other ≠ key) :
    erase key ((other, value) :: rest) = (other, value) :: erase key rest := by
  simp [erase, h]

theorem erase_append (key : α) (front back : List (α × β)) :
    erase key (front ++ back) = erase key front ++ erase key back :=
  List.filter_append front back

theorem erase_comm (key other : α) (entries : List (α × β)) :
    erase key (erase other entries) = erase other (erase key entries) := by
  unfold erase
  rw [List.filter_filter, List.filter_filter]
  congr 1
  funext entry
  exact Bool.and_comm _ _

theorem lookup_cons_of_ne {key other : α} (value : β) (rest : List (α × β)) (h : other ≠ key) :
    ((key, value) :: rest).lookup other = rest.lookup other := by
  have hbeq : (other == key) = false := by
    simpa using h
  simp [List.lookup_cons, hbeq]

theorem lookup_erase_of_ne {key other : α} (entries : List (α × β)) (h : other ≠ key) :
    (erase key entries).lookup other = entries.lookup other := by
  induction entries with
  | nil => rfl
  | cons entry rest ih =>
      rcases entry with ⟨head, value⟩
      by_cases hkey : head = key
      · subst hkey
        rw [erase_cons_self, lookup_cons_of_ne value rest h]
        exact ih
      · rw [erase_cons_of_ne value rest hkey]
        by_cases hother : other = head
        · subst hother
          rw [List.lookup_cons_self, List.lookup_cons_self]
        · rw [lookup_cons_of_ne value _ hother, lookup_cons_of_ne value _ hother]
          exact ih

theorem not_mem_keys_erase (key : α) (entries : List (α × β)) :
    key ∉ (erase key entries).map Prod.fst := by
  simp [erase]

theorem keys_erase_sublist (key : α) (entries : List (α × β)) :
    ((erase key entries).map Prod.fst).Sublist (entries.map Prod.fst) :=
  List.Sublist.map Prod.fst List.filter_sublist

theorem erase_of_not_mem {key : α} {entries : List (α × β)}
    (h : key ∉ entries.map Prod.fst) : erase key entries = entries := by
  unfold erase
  rw [List.filter_eq_self]
  intro entry hentry
  have hne : entry.1 ≠ key := by
    intro heq
    apply h
    rw [← heq]
    exact List.mem_map_of_mem hentry
  simpa using hne

theorem not_mem_keys_of_lookup_eq_none {key : α} {entries : List (α × β)}
    (h : entries.lookup key = none) : key ∉ entries.map Prod.fst := by
  induction entries with
  | nil => simp
  | cons entry rest ih =>
      rcases entry with ⟨head, value⟩
      by_cases hhead : key = head
      · subst hhead
        simp [List.lookup_cons_self] at h
      · rw [lookup_cons_of_ne value rest hhead] at h
        simp only [List.map_cons, List.mem_cons, not_or]
        exact ⟨hhead, ih h⟩

theorem lookup_append_of_not_mem {key : α} {front : List (α × β)} (back : List (α × β))
    (h : key ∉ front.map Prod.fst) : (front ++ back).lookup key = back.lookup key := by
  induction front with
  | nil => rfl
  | cons entry rest ih =>
      rcases entry with ⟨head, value⟩
      simp only [List.map_cons, List.mem_cons, not_or] at h
      rw [List.cons_append, lookup_cons_of_ne value _ h.left]
      exact ih h.right

end Association
end Provision
