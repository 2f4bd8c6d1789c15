import Provision.Fault

/-!
# Actions

What an action answers and which state it leaves, whether it comes to its end or stops, and what it
stops at.  Two actions respect a relation between their states if they answer the same and leave
related states.
-/

namespace Provision
namespace Action

variable {σ τ α β : Type}

/-! ## Answers and states -/

/-- What an action answers. -/
def answer (action : Action σ α) (s : σ) : Except Stop α :=
  match action s with
  | .ok x _ => .ok x
  | .error stop _ => .error stop

/-- The state that an action leaves, whether it comes to its end or stops. -/
def leaves (action : Action σ α) (s : σ) : σ :=
  match action s with
  | .ok _ t => t
  | .error _ t => t

theorem eq_ok_of_answer {action : Action σ α} {s : σ} {x : α} (h : action.answer s = .ok x) :
    action s = .ok x (action.leaves s) := by
  unfold answer at h
  unfold leaves
  cases hrun : action s with
  | ok y t =>
      rw [hrun] at h
      cases h
      rfl
  | error stop t =>
      rw [hrun] at h
      cases h

theorem leaves_of_ok {action : Action σ α} {s t : σ} {x : α} (h : action s = .ok x t) :
    action.leaves s = t := by
  rw [leaves, h]

/-- The answer to a fault that is turned into another one. -/
def wrapStop (wrap : Fault -> Fault) : Except Stop α -> Except Stop α
  | .error (.fault reason) => .error (.fault (wrap reason))
  | result => result

section Equations

variable (action : Action σ α) (next : α -> Action σ β) (s : σ)

theorem answer_bind :
    (action >>= next).answer s =
      match action.answer s with
      | .ok x => (next x).answer (action.leaves s)
      | .error stop => .error stop := by
  unfold answer leaves
  rw [run_bind]
  cases action s with
  | ok x t => rfl
  | error stop t => rfl

theorem leaves_bind :
    (action >>= next).leaves s =
      match action.answer s with
      | .ok x => (next x).leaves (action.leaves s)
      | .error _ => action.leaves s := by
  unfold answer leaves
  rw [run_bind]
  cases action s with
  | ok x t => rfl
  | error stop t => rfl

theorem exists_of_answer_bind {action : Action σ α} {next : α -> Action σ β} {s : σ} {y : β}
    (h : (action >>= next).answer s = .ok y) :
    exists x, action.answer s = .ok x ∧ (next x).answer (action.leaves s) = .ok y := by
  rw [answer_bind] at h
  cases hx : action.answer s with
  | error stop =>
      rw [hx] at h
      cases h
  | ok x =>
      rw [hx] at h
      exact ⟨x, rfl, h⟩

theorem answer_get_bind (next : σ -> Action σ β) : (get >>= next).answer s = (next s).answer s := by
  rw [answer_bind]
  rfl

theorem leaves_get_bind (next : σ -> Action σ β) : (get >>= next).leaves s = (next s).leaves s := by
  rw [leaves_bind]
  rfl

theorem answer_mapFault (wrap : Fault -> Fault) :
    (mapFault wrap action).answer s = wrapStop wrap (action.answer s) := by
  unfold answer mapFault
  cases action s with
  | ok x t => rfl
  | error stop t =>
      cases stop with
      | fault reason => rfl
      | misuse reason => rfl

theorem answer_of_mapFault {action : Action σ α} {wrap : Fault -> Fault} {s : σ} {x : α}
    (h : (mapFault wrap action).answer s = .ok x) : action.answer s = .ok x := by
  rw [answer_mapFault] at h
  cases hx : action.answer s with
  | ok y =>
      rw [hx] at h
      exact h
  | error stop =>
      rw [hx] at h
      cases stop
      · cases h
      · cases h

theorem leaves_mapFault (wrap : Fault -> Fault) :
    (mapFault wrap action).leaves s = action.leaves s := by
  unfold leaves mapFault
  cases action s with
  | ok x t => rfl
  | error stop t =>
      cases stop with
      | fault reason => rfl
      | misuse reason => rfl

theorem answer_onPart (part : τ -> σ) (put : σ -> τ -> τ) (t : τ) :
    (onPart part put action).answer t = action.answer (part t) := by
  unfold answer onPart
  cases action (part t) with
  | ok x s => rfl
  | error stop s => rfl

theorem leaves_onPart (part : τ -> σ) (put : σ -> τ -> τ) (t : τ) :
    (onPart part put action).leaves t = put (action.leaves (part t)) t := by
  unfold leaves onPart
  cases action (part t) with
  | ok x s => rfl
  | error stop s => rfl

theorem leaves_bind_of_answer {action : Action σ α} {next : α -> Action σ β} {s : σ} {x : α}
    (h : action.answer s = .ok x) :
    (action >>= next).leaves s = (next x).leaves (action.leaves s) := by
  rw [leaves_bind, h]

end Equations

/-! ## What an action always does -/

/-- The state that an action leaves is always in a relation to the one it started from. -/
def Always (R : σ -> σ -> Prop) (action : Action σ α) : Prop :=
  forall s, R s (action.leaves s)

section Always

variable {R : σ -> σ -> Prop} {action : Action σ α}

theorem Always.bind (h : Always R action) (htrans : forall a b c, R a b -> R b c -> R a c)
    {next : α -> Action σ β} (hnext : forall x, Always R (next x)) :
    Always R (action >>= next) := by
  intro s
  rw [leaves_bind]
  cases action.answer s with
  | ok x => exact htrans _ _ _ (h s) (hnext x (action.leaves s))
  | error stop => exact h s

theorem Always.get_bind {next : σ -> Action σ β} (h : forall s, Always R (next s)) :
    Always R (get >>= next) := by
  intro s
  rw [leaves_get_bind]
  exact h s s

theorem Always.mapFault (h : Always R action) (wrap : Fault -> Fault) :
    Always R (mapFault wrap action) := by
  intro s
  rw [leaves_mapFault]
  exact h s

end Always

/-! ## What an action stops at -/

/-- Whatever an action stops at is of the given kind. -/
def StopsOnly (P : Stop -> Prop) (action : Action σ α) : Prop :=
  forall s stop, action.answer s = .error stop -> P stop

section StopsOnly

variable {P : Stop -> Prop} {action : Action σ α}

theorem stopsOnly_pure (x : α) : StopsOnly P (pure x : Action σ α) := by
  intro s stop h
  cases h

theorem stopsOnly_throw {stop : Stop} (h : P stop) :
    StopsOnly P (throw stop : Action σ α) := by
  intro s cause hcause
  cases hcause
  exact h

theorem stopsOnly_modify (change : σ -> σ) : StopsOnly P (modify change : Action σ Unit) := by
  intro s stop h
  cases h

theorem StopsOnly.bind (h : StopsOnly P action) {next : α -> Action σ β}
    (hnext : forall x, StopsOnly P (next x)) : StopsOnly P (action >>= next) := by
  intro s stop hstop
  rw [answer_bind] at hstop
  cases hanswer : action.answer s with
  | error cause =>
      rw [hanswer] at hstop
      cases hstop
      exact h s stop hanswer
  | ok x =>
      rw [hanswer] at hstop
      exact hnext x _ stop hstop

theorem StopsOnly.get_bind {next : σ -> Action σ α} (h : forall s, StopsOnly P (next s)) :
    StopsOnly P (get >>= next) := by
  intro s stop hstop
  rw [answer_get_bind] at hstop
  exact h s s stop hstop

theorem StopsOnly.onPart (h : StopsOnly P action) (part : τ -> σ) (put : σ -> τ -> τ) :
    StopsOnly P (Action.onPart part put action) := by
  intro s stop hstop
  rw [answer_onPart] at hstop
  exact h _ stop hstop

theorem StopsOnly.mapFault (h : StopsOnly P action) {wrap : Fault -> Fault}
    (hwrap : forall reason, P (.fault reason) -> P (.fault (wrap reason))) :
    StopsOnly P (Action.mapFault wrap action) := by
  intro s stop hstop
  rw [answer_mapFault] at hstop
  cases hanswer : action.answer s with
  | ok x =>
      rw [hanswer] at hstop
      cases hstop
  | error cause =>
      rw [hanswer] at hstop
      have hcause := h s cause hanswer
      cases cause with
      | fault reason =>
          cases hstop
          exact hwrap reason hcause
      | misuse misuse =>
          cases hstop
          exact hcause

end StopsOnly

/-! ## Actions that correspond -/

/-- Two actions on related states answer the same and leave related states. -/
def Respects (R : σ -> τ -> Prop) (first : Action σ α) (second : Action τ α) : Prop :=
  forall s t, R s t ->
    first.answer s = second.answer t ∧ R (first.leaves s) (second.leaves t)

section Respects

variable {R : σ -> τ -> Prop} {first : Action σ α} {second : Action τ α}

theorem respects_pure (x : α) : Respects R (pure x : Action σ α) (pure x : Action τ α) :=
  fun _ _ h => ⟨rfl, h⟩

theorem respects_fault (reason : Fault) :
    Respects R (fault reason : Action σ α) (fault reason : Action τ α) :=
  fun _ _ h => ⟨rfl, h⟩

theorem Respects.bind (h : Respects R first second) {next : α -> Action σ β}
    {other : α -> Action τ β} (hnext : forall x, Respects R (next x) (other x)) :
    Respects R (first >>= next) (second >>= other) := by
  intro s t hst
  rcases h s t hst with ⟨hanswer, hleaves⟩
  rw [answer_bind, answer_bind, leaves_bind, leaves_bind, hanswer]
  cases second.answer t with
  | ok x => exact hnext x _ _ hleaves
  | error stop => exact ⟨rfl, hleaves⟩

theorem Respects.mapFault (h : Respects R first second) (wrap : Fault -> Fault) :
    Respects R (mapFault wrap first) (mapFault wrap second) := by
  intro s t hst
  rcases h s t hst with ⟨hanswer, hleaves⟩
  rw [answer_mapFault, answer_mapFault, leaves_mapFault, leaves_mapFault, hanswer]
  exact ⟨rfl, hleaves⟩

end Respects

/-! ## Actions that follow others -/

/-- Whenever an action comes to its end, so does the other one from a related state, with a related
answer and in a related state. -/
def Follows (R : σ -> τ -> Prop) (Q : α -> β -> Prop) (first : Action σ α) (second : Action τ β) :
    Prop :=
  forall s t, R s t -> forall x s', first s = .ok x s' ->
    exists y t', second t = .ok y t' ∧ Q x y ∧ R s' t'

section Follows

variable {R : σ -> τ -> Prop} {γ δ : Type} {P : γ -> δ -> Prop}

theorem Respects.follows {first : Action σ α} {second : Action τ α} (h : Respects R first second) :
    Follows R Eq first second := by
  intro s t hst x s' hrun
  rcases h s t hst with ⟨hanswer, hleaves⟩
  have hfirst : first.answer s = .ok x := by
    rw [answer, hrun]
  rw [hfirst] at hanswer
  rw [leaves_of_ok hrun] at hleaves
  exact ⟨x, second.leaves t, eq_ok_of_answer hanswer.symm, rfl, hleaves⟩

theorem follows_pure {x : γ} {y : δ} (h : P x y) :
    Follows R P (pure x : Action σ γ) (pure y : Action τ δ) := by
  intro s t hst _ _ hrun
  cases hrun
  exact ⟨y, t, rfl, h, hst⟩

theorem Follows.bind {Q : α -> β -> Prop} {first : Action σ α} {second : Action τ β}
    (h : Follows R Q first second) {next : α -> Action σ γ} {other : β -> Action τ δ}
    (hnext : forall x y, Q x y -> Follows R P (next x) (other y)) :
    Follows R P (first >>= next) (second >>= other) := by
  intro s t hst z s'' hrun
  cases hfirst : first s with
  | error stop s' =>
      rw [run_bind, hfirst] at hrun
      cases hrun
  | ok x s' =>
      rw [run_bind, hfirst] at hrun
      rcases h s t hst x s' hfirst with ⟨y, t', hsecond, hxy, hst'⟩
      rw [run_bind, hsecond]
      exact hnext x y hxy s' t' hst' z s'' hrun

theorem Respects.follows_bind {first : Action σ α} {second : Action τ α}
    (h : Respects R first second) {next : α -> Action σ γ} {other : α -> Action τ δ}
    (hnext : forall x, Follows R P (next x) (other x)) :
    Follows R P (first >>= next) (second >>= other) := by
  apply h.follows.bind
  rintro x _ rfl
  exact hnext x

end Follows

end Action
end Provision
