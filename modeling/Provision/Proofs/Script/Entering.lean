import Provision.Proofs.Code.Counting
import Provision.Proofs.Script.Looping
import Provision.Proofs.Script.Stepping

/-!
# Entering emitted loops

The loops that are left in the code count.  Of the locals they carry those that are kept.  So what
is in scope inside of a loop is known, and the frame of each pass from what the locals hold there.
-/

namespace Provision

/-! ## What is left of a header -/

namespace LoopParts

theorem Emitted.map_type {parts : LoopParts} {site : Site} {head : CountedLoop}
    {body rest : Script} {builder after : Builder}
    (h : parts.Emitted site head body rest builder after) :
    parts.locals.map Carried.type = parts.types := by
  have htypes : parts.locals.map Carried.type =
      (parts.locals.map Carried.value).map (head.enter parts.bound parts.types builder).typeOf := by
    rw [List.map_map]
    exact List.map_congr_left h.type
  rw [htypes, h.value, ← h.length]
  exact CountedLoop.map_typeOf_enter head parts.bound parts.types builder

/-- The body of a loop with the step of its counter. -/
def turn (parts : LoopParts) (builder : Builder) : Code :=
  parts.pass.append
    (.ofSteps [.compute parts.middle.types.length (.addImmediate (builder.types.length + 1) 1)])

/-- What is decided about the values of a loop. -/
structure Suited (parts : LoopParts) (demand : Demand) (builder : Builder) : Prop where
  origin : demand.resolve builder.types.length = builder.types.length
  index : demand.resolve (builder.types.length + 1) = builder.types.length + 1
  decides : forall one, one ∈ parts.locals -> demand.Decides one
  test : demand.resolve (builder.types.length + 2 + builder.locals.length) =
    builder.types.length + 2 + builder.locals.length
  pass : demand.Suits parts.pass
  next : demand.resolve parts.middle.types.length = parts.middle.types.length
  tail : demand.Suits parts.tail

/-- Every pass changes the counter, so that it stands for nothing older. -/
theorem suited_of_suits {parts : LoopParts} {demand : Demand} {builder : Builder}
    (h : demand.Suits (parts.code builder))
    (hlater : builder.types.length < parts.middle.types.length) :
    parts.Suited demand builder := by
  rcases Demand.suits_prepend.mp h with ⟨horigin, hcarried, htest, hbody, htail⟩
  rcases Demand.suits_append.mp hbody with ⟨hpass, hnext, _⟩
  rcases List.forall_mem_cons.mp hcarried with ⟨hindex, hlocals⟩
  have horigin := horigin _ (List.mem_singleton_self _)
  have hnext := hnext _ (List.mem_singleton_self _)
  have hself : demand.resolve (builder.types.length + 1) = builder.types.length + 1 := by
    rcases hindex with hself | ⟨_, hinitial, hback⟩
    · exact hself
    · have hsame : parts.middle.types.length = builder.types.length :=
        hnext.symm.trans (hback.trans (hinitial.trans horigin))
      exact absurd hsame (Nat.ne_of_gt hlater)
  exact ⟨horigin, hself, hlocals, htest _ (List.mem_singleton_self _), hpass, hnext, htail⟩

end LoopParts

namespace LoopHeader

theorem lookup_carried {header : LoopHeader} (hnodup : header.parameters.Nodup)
    (more : List (ValueId × MachineType)) {one : Carried} (h : one ∈ header.carried) :
    ((header.carried.map fun one => (one.value, one.type)) ++ more).lookup one.value =
      some one.type := by
  have hkeys : ((header.carried.map fun one => (one.value, one.type)).map Prod.fst).Nodup := by
    rw [List.map_map]
    exact hnodup
  have hentry := List.mem_map_of_mem (f := fun one : Carried => (one.value, one.type)) h
  exact Association.lookup_of_mem hkeys hentry more

end LoopHeader

/-! ## Integers -/

theorem Operation.exists_of_isNarrow {type : MachineType} (h : Operation.isNarrow type = true) :
    exists width, type = .int width ∧ width.bits ≤ 64 := by
  cases type with
  | float format => cases h
  | int width => exact ⟨width, rfl, of_decide_eq_true h⟩

theorem Operation.on_constInt_zero (width : Width) :
    (Operation.constInt (.int width) 0).on [] = some (.int width 0) := by
  simp [Operation.on, Operation.eval]

theorem Scalar.exists_of_type_eq_int {x : Scalar} {width : Width} (h : x.type = .int width) :
    exists e, x = .int width e := by
  cases x with
  | float format pattern => cases h
  | int other e =>
      cases h
      exact ⟨e, rfl⟩

/-! ## What is left of a loop -/

namespace Rendition

variable {σ : Type} {r : Rendition σ} {p q : Point} {hidden : List String} {scene : Scene σ}
  {parts : LoopParts} {width : Width} {e : BitVec width.bits} {inner ended : Scope}

/-- The values of a loop as it is left in the code. -/
def counting (r : Rendition σ) (p : Point) (parts : LoopParts) (width : Width) : Counting where
  width := width
  index := p.builder.types.length + 1
  test := p.builder.types.length + 2 + p.builder.locals.length
  origin := p.builder.types.length
  next := parts.middle.types.length
  bound := r.demand.resolve parts.bound
  locals := (parts.locals.filter fun one => r.demand.keeps one.value).map
    (Carried.rename r.demand.resolve)

theorem parameters_counting :
    (r.counting p parts width).header.parameters = (p.builder.types.length + 1) ::
      (parts.locals.filter fun one => r.demand.keeps one.value).map Carried.value := by
  simp only [LoopHeader.parameters, counting, Counting.header, List.map_cons, List.map_map]
  rfl

/-- A loop that carries its counter is left as one that counts. -/
theorem prune_header (hsuited : parts.Suited r.demand p.builder)
    (hkeeps : r.demand.keeps (p.builder.types.length + 1) = true)
    (htype : p.builder.typeOf parts.bound = .int width) :
    (parts.header p.builder).prune r.demand = (r.counting p parts width).header := by
  simp only [LoopHeader.prune, LoopParts.header, counting, Counting.header, htype,
    List.filter_cons, hkeeps, if_true, List.map_cons, List.map_nil, Carried.rename,
    Instruction.rename, Operation.rename, hsuited.origin, hsuited.index, hsuited.test,
    hsuited.next]

/-- What a loop carries in the code is what it carries for its counter and its locals. -/
theorem bounds_of_mem_parameters (hvalue : parts.locals.map Carried.value =
      List.range' (p.builder.types.length + 2) p.builder.locals.length)
    {value : ValueId} (h : value ∈ (r.counting p parts width).header.parameters) :
    p.builder.types.length + 1 ≤ value ∧
      value < p.builder.types.length + 2 + p.builder.locals.length := by
  rw [parameters_counting, List.mem_cons] at h
  rcases h with rfl | hlocal
  · constructor
    · exact Nat.le_refl _
    · have hlt : p.builder.types.length + 1 <
          p.builder.types.length + 2 + p.builder.locals.length := by
        omega
      exact hlt
  · have hmem : value ∈ parts.locals.map Carried.value := by
      rcases List.mem_map.mp hlocal with ⟨one, hone, rfl⟩
      exact List.mem_map_of_mem (List.mem_of_mem_filter hone)
    rw [hvalue, List.mem_range'_1] at hmem
    exact ⟨Nat.le_of_succ_le hmem.left, hmem.right⟩

theorem nodup_parameters (hvalue : parts.locals.map Carried.value =
      List.range' (p.builder.types.length + 2) p.builder.locals.length) :
    (r.counting p parts width).header.parameters.Nodup := by
  rw [parameters_counting, List.nodup_cons]
  have hsublist : ((parts.locals.filter fun one => r.demand.keeps one.value).map
      Carried.value).Sublist (parts.locals.map Carried.value) :=
    List.filter_sublist.map Carried.value
  rw [hvalue] at hsublist
  constructor
  · intro hmem
    have hfirst := (List.mem_range'_1.mp (hsublist.subset hmem)).left
    exact Nat.not_succ_le_self _ hfirst
  · exact hsublist.nodup List.nodup_range'

/-! ## Entering a loop -/

/-- A loop of the code where it is entered.  Its counter has been set to zero, the value of its
bound is known, and the scopes of its header and of its body fit. -/
structure Enters (r : Rendition σ) (p q : Point) (parts : LoopParts) (width : Width)
    (e : BitVec width.bits) (inner ended : Scope) : Prop where
  type : p.builder.typeOf parts.bound = .int width
  narrow : width.bits ≤ 64
  reaches : r.Reaches p q
  types : q.builder.types = p.builder.types ++ [.int width]
  index : r.demand.keeps (p.builder.types.length + 1) = true
  origin : q.frame.value? p.builder.types.length = some (.int width 0)
  older : r.demand.resolve parts.bound < p.builder.types.length
  bound : q.frame.value? (r.demand.resolve parts.bound) = some (.int width e)
  checks : Region.Checks r.env (r.counting p parts width).header
    ((parts.turn p.builder).prune r.demand) q.scope inner ended
  fits : Region.Fits (r.counting p parts width).header q.scope inner ended

/-- The scope after a loop, given that of its header and that at the end of its body. -/
def outward (r : Rendition σ) (p : Point) (parts : LoopParts) (width : Width)
    (inner ended : Scope) : Scope :=
  { inner with
    fits := (ended.require ((r.counting p parts width).header.carried.all fun carried =>
      ended.typeOf carried.next == carried.type)).fits }

/-- A header that has been checked compares values that are in scope. -/
theorem exists_compared {header : LoopHeader} {scope : Scope} {test a b : ValueId}
    (hinstructions : header.instructions = [.compute test (.less a b)])
    {body : Code} (h : Region.Checks r.env header body scope inner ended) {value : ValueId}
    (hvalue : value ∈ [a, b]) :
    exists type, ((header.carried.map fun one => (one.value, one.type)) ++ scope.values).lookup
      value = some type := by
  rcases h.enter with ⟨entered, hentered, hheader⟩
  rw [hinstructions] at hheader
  rcases Instruction.checkAll_cons_eq_ok hheader with ⟨_, hfirst, _⟩
  have hmissing := (Instruction.check_eq_ok hfirst).left
  rcases Scope.exists_of_missing? hmissing hvalue with ⟨type, htype⟩
  rw [(LoopHeader.enter_eq_ok hentered).right] at htype
  exact ⟨type, htype⟩

/-- The counter of a loop that has been checked is kept: the header compares it, and nothing before
the loop goes by its number. -/
theorem keeps_index (hsuited : parts.Suited r.demand p.builder) {scope : Scope} {body : Code}
    (h : Region.Checks r.env ((parts.header p.builder).prune r.demand) body scope inner ended)
    (hbounded : forall value type, scope.values.lookup value = some type ->
      value < p.builder.types.length + 1) :
    r.demand.keeps (p.builder.types.length + 1) = true := by
  have hless : ((parts.header p.builder).prune r.demand).instructions =
      [.compute (p.builder.types.length + 2 + p.builder.locals.length)
        (.less (r.demand.resolve (p.builder.types.length + 1))
          (r.demand.resolve parts.bound))] := rfl
  rcases exists_compared hless h List.mem_cons_self with ⟨type, hlookup⟩
  rw [hsuited.index] at hlookup
  by_contra hnot
  have hfree : p.builder.types.length + 1 ∉
      ((((parts.header p.builder).prune r.demand).carried.map fun one =>
        (one.value, one.type)).map Prod.fst) := by
    intro hmem
    simp only [LoopHeader.prune, List.map_map, List.mem_map, List.mem_filter] at hmem
    rcases hmem with ⟨one, ⟨_, hkeeps⟩, hone⟩
    rw [← hone] at hnot
    exact hnot hkeeps
  rw [Association.lookup_append_of_not_mem _ hfree] at hlookup
  exact Nat.lt_irrefl _ (hbounded _ type hlookup)

/-- The bound of a loop that has been checked is in scope before it. -/
theorem exists_bound (hvalue : parts.locals.map Carried.value =
      List.range' (p.builder.types.length + 2) p.builder.locals.length)
    {scope : Scope} {body : Code}
    (h : Region.Checks r.env (r.counting p parts width).header body scope inner ended)
    (holder : r.demand.resolve parts.bound < p.builder.types.length) :
    exists type, scope.values.lookup (r.demand.resolve parts.bound) = some type := by
  have hcompared : (r.counting p parts width).header.instructions =
      [.compute (p.builder.types.length + 2 + p.builder.locals.length)
        (.less (p.builder.types.length + 1) (r.demand.resolve parts.bound))] := rfl
  rcases exists_compared hcompared h (List.mem_cons_of_mem _ (List.mem_singleton_self _)) with
    ⟨type, hlookup⟩
  have hfree : r.demand.resolve parts.bound ∉
      (((r.counting p parts width).header.carried.map fun one =>
        (one.value, one.type)).map Prod.fst) := by
    intro hmem
    rw [List.map_map] at hmem
    have hfirst := (bounds_of_mem_parameters hvalue hmem).left
    exact Nat.not_lt_of_le (Nat.le_of_succ_le hfirst) holder
  rw [Association.lookup_append_of_not_mem _ hfree] at hlookup
  exact ⟨type, hlookup⟩

/-- A loop whose code is accepted is entered with a bound of its counter's type. -/
theorem Matches.enters (h : r.Matches hidden p scene) {head : CountedLoop} {body rest : Script}
    {after : Builder} (hparts : parts.Emitted r.site head body rest p.builder after)
    (hsuited : parts.Suited r.demand p.builder) (hbound : head.bound ∉ hidden)
    {last : Scope} (hcheck : ((parts.code p.builder).prune r.demand).check r.env p.scope = .ok last)
    (hfits : last.fits = true) :
    exists width, exists e : BitVec width.bits, exists q inner ended,
      scene.value? head.bound = some (.int width e) ∧
        r.Enters p q parts width e inner ended ∧
        Instruction.runAll r.invoke (r.prune [.compute p.builder.types.length
          (.constInt (p.builder.typeOf parts.bound) 0)]) (p.frame, scene.world) =
            some (q.frame, scene.world) ∧
        (parts.tail.prune r.demand).check r.env (r.outward p parts width inner ended) =
          .ok last := by
  rw [LoopParts.code, Region.prune_prepend] at hcheck
  rcases Region.check_prepend_eq_ok hcheck with ⟨scope, horigin, hloop⟩
  rcases Region.check_loop_eq_ok hloop with ⟨inner, ended, hchecks, htail⟩
  rcases h.names head.bound parts.bound hbound hparts.bound with ⟨x, hx, hstands⟩
  have hended := Region.fits_of_check htail hfits
  have hfitted := hchecks.fits hended
  have haccepts : r.Accepts [.compute p.builder.types.length
      (.constInt (p.builder.typeOf parts.bound) 0)] p.scope scope := by
    refine ⟨horigin, hfitted.before, ?_⟩
    intro result hresult
    cases List.mem_singleton.mp hresult
    exact hsuited.origin
  have hnarrow : Operation.isNarrow (p.builder.typeOf parts.bound) = true := by
    have hbroken := (Instruction.check_eq_ok haccepts.single).right.left
    simp only [Instruction.rename, Operation.rename, Instruction.brokenConstant?] at hbroken
    split at hbroken
    · assumption
    · cases hbroken
  rcases Operation.exists_of_isNarrow hnarrow with ⟨width, htype, hbits⟩
  rcases Scalar.exists_of_type_eq_int (hstands.type.trans htype) with ⟨e, rfl⟩
  have hnone : (Operation.constInt (.int width) 0).operands = [] := rfl
  have hzero := renders_constant h.sound hnone scene.world
  rw [Operation.on_constInt_zero] at hzero
  rw [htype] at haccepts
  rcases hzero _ _ (Emit.run_compute _ _) _ rfl scope haccepts with
    ⟨frame, _, hruns, rfl, hreaches, hvalue⟩
  have hlength : (p.builder.types ++ [MachineType.int width]).length =
      p.builder.types.length + 1 := by
    rw [List.length_append, List.length_singleton]
  have hindex := keeps_index hsuited hchecks fun value type hlookup => by
    rw [← hlength]
    exact hreaches.sound.bounded value type hlookup
  rw [prune_header hsuited hindex htype] at hchecks hfitted htail
  have hheld := exists_bound hparts.value hchecks hstands.older
  rcases hheld with ⟨type, hheld⟩
  have hsame := ((hstands.later hreaches.later).holds type hheld).right
  have horigins : (r.demand.resolve p.builder.types.length) = p.builder.types.length :=
    hsuited.origin
  rcases hchecks.enter with ⟨entered, hentered, _⟩
  rcases Scope.exists_of_missing? (LoopHeader.enter_eq_ok hentered).left List.mem_cons_self with
    ⟨first, hfirst⟩
  have hstart := (hvalue.holds first (by rw [horigins]; exact hfirst)).right
  rw [horigins] at hstart
  rw [htype]
  exact ⟨width, e, _, inner, ended, hx, ⟨htype, hbits, hreaches, rfl, hindex, hstart,
    hstands.older, hsame, hchecks, hfitted⟩, hruns, htail⟩

/-! ## The scope inside of a loop -/

section Inside

variable (h : r.Enters p q parts width e inner ended) (hvalue : parts.locals.map Carried.value =
  List.range' (p.builder.types.length + 2) p.builder.locals.length)

include h in
theorem Enters.values : inner.values =
    (p.builder.types.length + 2 + p.builder.locals.length, .i8) ::
      (((r.counting p parts width).header.carried.map fun one => (one.value, one.type)) ++
        q.scope.values) := by
  rcases h.checks.enter with ⟨entered, hentered, hheader⟩
  rcases Instruction.checkAll_cons_eq_ok hheader with ⟨_, hfirst, hnil⟩
  cases hnil
  rw [(Instruction.check_eq_ok hfirst).right.right, (LoopHeader.enter_eq_ok hentered).right]
  rfl

include h in
theorem Enters.length_types : q.builder.types.length = p.builder.types.length + 1 := by
  rw [h.types, List.length_append, List.length_singleton]

include h hvalue

theorem Enters.lookup_older {value : ValueId} (hlt : value < p.builder.types.length + 1) :
    inner.values.lookup value = q.scope.values.lookup value := by
  have hle : p.builder.types.length + 1 ≤
      p.builder.types.length + 2 + p.builder.locals.length := by
    omega
  have htest := Nat.lt_of_lt_of_le hlt hle
  have hfree : value ∉ (((r.counting p parts width).header.carried.map fun one =>
      (one.value, one.type)).map Prod.fst) := by
    intro hmem
    rw [List.map_map] at hmem
    exact Nat.not_le_of_lt hlt (bounds_of_mem_parameters hvalue hmem).left
  rw [h.values, Association.lookup_cons_of_ne _ _ (Nat.ne_of_lt htest),
    Association.lookup_append_of_not_mem _ hfree]

theorem Enters.lookup_carried {one : Carried}
    (hone : one ∈ (r.counting p parts width).header.carried) :
    inner.values.lookup one.value = some one.type := by
  have hparameter : one.value ∈ (r.counting p parts width).header.parameters :=
    List.mem_map_of_mem hone
  have hlt := (bounds_of_mem_parameters hvalue hparameter).right
  rw [h.values, Association.lookup_cons_of_ne _ _ (Nat.ne_of_lt hlt)]
  exact LoopHeader.lookup_carried (nodup_parameters hvalue) _ hone

theorem Enters.lookup_dropped {one : Carried} (hone : one ∈ parts.locals)
    (hdropped : r.demand.keeps one.value = false) : inner.values.lookup one.value = none := by
  have hmem := List.mem_map_of_mem (f := Carried.value) hone
  rw [hvalue, List.mem_range'_1] at hmem
  have hfree : one.value ∉ (((r.counting p parts width).header.carried.map fun one =>
      (one.value, one.type)).map Prod.fst) := by
    intro hkey
    rw [List.map_map] at hkey
    have hparameter : one.value ∈ (r.counting p parts width).header.parameters := hkey
    rw [parameters_counting, List.mem_cons] at hparameter
    rcases hparameter with hindex | hlocal
    · rw [hindex] at hmem
      exact Nat.not_succ_le_self _ hmem.left
    · rcases List.mem_map.mp hlocal with ⟨other, hother, hsame⟩
      have hkeeps := (List.mem_filter.mp hother).right
      rw [hsame, hdropped] at hkeeps
      cases hkeeps
  rw [h.values, Association.lookup_cons_of_ne _ _ (Nat.ne_of_lt hmem.right),
    Association.lookup_append_of_not_mem _ hfree]
  cases hlookup : q.scope.values.lookup one.value with
  | none => rfl
  | some type =>
      have hlt := h.reaches.sound.bounded _ type hlookup
      rw [h.length_types] at hlt
      exact absurd hlt (Nat.not_lt_of_le (Nat.le_of_succ_le hmem.left))

/-- What is in scope inside of a loop has been emitted before its body. -/
theorem Enters.bounded {value : ValueId} {type : MachineType}
    (hlookup : inner.values.lookup value = some type) :
    value < p.builder.types.length + 3 + p.builder.locals.length := by
  by_contra hnot
  have hle := Nat.le_of_not_lt hnot
  have hend : p.builder.types.length + 2 + p.builder.locals.length <
      p.builder.types.length + 3 + p.builder.locals.length := by
    omega
  have hstart : p.builder.types.length + 1 ≤
      p.builder.types.length + 3 + p.builder.locals.length := by
    omega
  have htest := Nat.lt_of_lt_of_le hend hle
  have hfree : value ∉ (((r.counting p parts width).header.carried.map fun one =>
      (one.value, one.type)).map Prod.fst) := by
    intro hkey
    rw [List.map_map] at hkey
    exact Nat.lt_asymm htest (bounds_of_mem_parameters hvalue hkey).right
  rw [h.values, Association.lookup_cons_of_ne _ _ (Nat.ne_of_gt htest),
    Association.lookup_append_of_not_mem _ hfree] at hlookup
  have hlt := h.reaches.sound.bounded value type hlookup
  rw [h.length_types] at hlt
  exact Nat.not_le_of_lt hlt (Nat.le_trans hstart hle)

end Inside

/-! ## The frame inside of a loop -/

/-- The frame of a pass in which the locals hold some values. -/
def within (r : Rendition σ) (p q : Point) (parts : LoopParts) (width : Width)
    (x : BitVec width.bits) (xs : List Scalar) (goesOn : Bool) : Frame :=
  (r.counting p parts width).enter q.frame x
    (sift (fun one => r.demand.keeps one.value) parts.locals xs) goesOn

section Within

variable (hvalue : parts.locals.map Carried.value =
    List.range' (p.builder.types.length + 2) p.builder.locals.length)
  (x : BitVec width.bits) {xs : List Scalar} (goesOn : Bool)

theorem value?_within_index :
    (r.within p q parts width x xs goesOn).value? (p.builder.types.length + 1) =
      some (.int width x) := by
  apply Counting.value?_enter_index
  have hlt : p.builder.types.length + 1 <
      p.builder.types.length + 2 + p.builder.locals.length := by
    omega
  exact Nat.ne_of_lt hlt

include hvalue

theorem value?_within_older {value : ValueId} (hlt : value < p.builder.types.length + 1) :
    (r.within p q parts width x xs goesOn).value? value = q.frame.value? value := by
  have htest : p.builder.types.length + 1 ≤
      p.builder.types.length + 2 + p.builder.locals.length := by
    omega
  have hlocals : forall one, one ∈ (r.counting p parts width).locals ->
      p.builder.types.length + 1 ≤ one.value := by
    intro one hone
    have hparameter : one.value ∈ (r.counting p parts width).header.parameters :=
      List.mem_map_of_mem (List.mem_cons_of_mem _ hone)
    exact (bounds_of_mem_parameters hvalue hparameter).left
  exact (r.counting p parts width).keeps_enter (Nat.le_refl _) htest hlocals x _ goesOn value hlt

/-- A local that is kept is in the frame of every pass. -/
theorem value?_within_kept (hlength : parts.locals.length = xs.length) :
    List.Forall₂ (fun one y => r.demand.keeps one.value = true ->
      (r.within p q parts width x xs goesOn).value? one.value = some y) parts.locals xs := by
  have hparameters : (r.counting p parts width).header.parameters.Nodup := nodup_parameters hvalue
  rw [parameters_counting, List.nodup_cons] at hparameters
  have hcount : ((parts.locals.filter fun one => r.demand.keeps one.value).map
      Carried.value).length =
        (sift (fun one => r.demand.keeps one.value) parts.locals xs).length := by
    rw [List.length_map, length_sift hlength]
  have hall := Association.forall₂_lookup_zip hparameters.right hcount q.frame.values
  rw [List.forall₂_map_left_iff] at hall
  have hboth := (List.forall₂_and_left _ _).mpr ⟨fun one hone => hone, hall⟩
  rw [← forall₂_sift_iff hlength]
  apply hboth.imp
  rintro one y ⟨hone, hlookup⟩
  have hlocal := List.mem_map_of_mem (f := Carried.value) hone
  have hparameter : one.value ∈ (r.counting p parts width).header.parameters := by
    rw [parameters_counting]
    exact List.mem_cons_of_mem _ hlocal
  have hindex : one.value ≠ p.builder.types.length + 1 := by
    intro heq
    rw [heq] at hlocal
    exact hparameters.left hlocal
  have htest := Nat.ne_of_lt (bounds_of_mem_parameters hvalue hparameter).right
  have hframe : (r.within p q parts width x xs goesOn).value? one.value =
      ((q.frame.bindAll (r.counting p parts width).header.parameters (.int width x ::
        sift (fun one => r.demand.keeps one.value) parts.locals xs)).value? one.value) := by
    exact (Frame.value?_bind _ _ _ _).trans (if_neg htest)
  rw [hframe, parameters_counting, Frame.bindAll_cons, Frame.value?_bind, if_neg hindex]
  exact hlookup

end Within

/-- The values in scope have their types in every pass whose locals have theirs. -/
theorem Enters.types_within (h : r.Enters p q parts width e inner ended) (x : BitVec width.bits)
    {xs : List Scalar} (htypes : xs.map Scalar.type = parts.locals.map Carried.type)
    (goesOn : Bool) : inner.Types (r.within p q parts width x xs goesOn) := by
  rcases h.checks.enter with ⟨entered, hentered, hheader⟩
  rcases Instruction.checkAll_cons_eq_ok hheader with ⟨_, hfirst, hnil⟩
  cases hnil
  have hlength : parts.locals.length = xs.length := by
    rw [← List.length_map Carried.type, ← htypes, List.length_map]
  have hlocals : (sift (fun one => r.demand.keeps one.value) parts.locals xs).map Scalar.type =
      (parts.locals.filter fun one => r.demand.keeps one.value).map Carried.type := by
    have hall := map_eq_map_iff.mp htypes.symm
    rw [eq_comm, map_eq_map_iff, forall₂_sift_iff hlength]
    apply hall.imp
    intro _ _ heq _
    exact heq
  have hvalues : (.int width x :: sift (fun one => r.demand.keeps one.value) parts.locals xs).map
      Scalar.type = (r.counting p parts width).header.carried.map Carried.type := by
    rw [List.map_cons, hlocals]
    simp only [counting, Counting.header, List.map_cons, List.map_map]
    rfl
  have hentry := LoopHeader.types_enter hentered h.reaches.sound.types hvalues
  rw [(Instruction.check_eq_ok hfirst).right.right]
  exact Scope.Types.bind hentry rfl

end Rendition
end Provision
