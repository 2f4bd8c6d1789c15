import Provision.Proofs.Script.Growing

/-!
# How loops are emitted

A loop has a zero from which its counter starts, a header that carries the counter and a value for
every local, and a body at the end of which the counter is made one more.  What a whole script is
emitted to binds the new values in turn, each of them once.
-/

namespace Provision

/-! ## Values that are carried -/

namespace Emit

theorem run_another (values : List ValueId) (builder : Builder) :
    exists types, types.length = values.length ∧
      ((forall value, value ∈ values -> value < builder.types.length) ->
        types = values.map builder.typeOf) ∧
      another values builder =
        .ok (List.range' builder.types.length values.length)
          { builder with types := builder.types ++ types } := by
  induction values generalizing builder with
  | nil =>
      refine ⟨[], rfl, fun _ => rfl, ?_⟩
      rw [List.append_nil]
      rfl
  | cons value values ih =>
      let grown : Builder := { builder with types := builder.types ++ [builder.typeOf value] }
      rcases ih grown with ⟨types, hlength, htypes, hrun⟩
      have hmore : grown.types = builder.types ++ [builder.typeOf value] := rfl
      refine ⟨builder.typeOf value :: types, ?_, ?_, ?_⟩
      · rw [List.length_cons, List.length_cons, hlength]
      · intro hvalues
        rw [List.forall_mem_cons] at hvalues
        have hgrown : forall other, other ∈ values -> other < grown.types.length := by
          intro other hother
          rw [hmore, List.length_append]
          exact Nat.lt_add_right _ (hvalues.right other hother)
        rw [htypes hgrown, List.map_cons]
        congr 1
        apply List.map_congr_left
        intro other hother
        exact Builder.typeOf_of_append hmore (hvalues.right other hother)
      · have hrest : another values grown =
            .ok (List.range' (builder.types.length + 1) values.length)
              { builder with types := builder.types ++ builder.typeOf value :: types } := by
          rw [hrun, hmore, List.length_append, List.append_assoc]
          rfl
        simp only [another, Action.run_bind, typeOf, Action.run_get, Action.run_pure, run_fresh]
        rw [hrest]
        rfl

theorem carried_cons_eq_ok {value initial next : ValueId} {values initials nexts : List ValueId}
    {table : List Carried} {builder after : Builder}
    (h : carried (value :: values) (initial :: initials) (next :: nexts) builder =
      .ok table after) :
    exists rest, carried values initials nexts builder = .ok rest after ∧
      table =
        { value := value, type := builder.typeOf value, initial := initial, next := next } ::
          rest := by
  unfold carried at h
  rcases exists_of_bind_eq_ok h with ⟨type, _, htype, hrest⟩
  cases htype
  rcases exists_of_bind_eq_ok hrest with ⟨rest, _, hcarried, hpure⟩
  cases hpure
  exact ⟨rest, hcarried, rfl⟩

theorem carried_eq_ok {values initials nexts : List ValueId} {table : List Carried}
    {builder after : Builder} (h : carried values initials nexts builder = .ok table after)
    (hinitials : values.length = initials.length) (hnexts : values.length = nexts.length) :
    after = builder ∧ table.map Carried.value = values ∧ table.map Carried.initial = initials ∧
      table.map Carried.next = nexts ∧
        forall one, one ∈ table -> one.type = builder.typeOf one.value := by
  induction values generalizing initials nexts table with
  | nil =>
      cases h
      rw [List.length_nil] at hinitials hnexts
      rw [List.length_eq_zero_iff.mp hinitials.symm, List.length_eq_zero_iff.mp hnexts.symm]
      exact ⟨rfl, rfl, rfl, rfl, fun one hone => nomatch hone⟩
  | cons value values ih =>
      cases initials with
      | nil => cases hinitials
      | cons initial initials =>
          cases nexts with
          | nil => cases hnexts
          | cons next nexts =>
              rcases carried_cons_eq_ok h with ⟨others, hothers, rfl⟩
              rcases ih hothers (Nat.succ.inj hinitials) (Nat.succ.inj hnexts) with
                ⟨hafter, rfl, rfl, rfl, htypes⟩
              refine ⟨hafter, rfl, rfl, rfl, ?_⟩
              rw [List.forall_mem_cons]
              exact ⟨rfl, htypes⟩

end Emit

namespace CountedLoop

/-- The builder where the body of a loop starts, given the value of the bound and the types of what
is carried for the locals. -/
def enter (loop : CountedLoop) (bound : ValueId) (types : List MachineType) (builder : Builder) :
    Builder :=
  let first := builder.types.length
  { builder with
    types := builder.types ++ ([builder.typeOf bound, builder.typeOf bound] ++ types ++ [.i8])
    names := (loop.counter, first + 1) :: builder.names
    locals := List.range' (first + 2) builder.locals.length
    pending := []
    uses := builder.uses ++ [.read (first + 1)] }

section Enter

variable (loop : CountedLoop) (bound : ValueId) (types : List MachineType) (builder : Builder)

theorem length_enter :
    (loop.enter bound types builder).types.length = builder.types.length + 3 + types.length := by
  simp only [enter, List.length_append, List.length_cons, List.length_nil]
  omega

theorem typeOf_enter_index :
    (loop.enter bound types builder).typeOf (builder.types.length + 1) = builder.typeOf bound := by
  have hindex : 1 < ([builder.typeOf bound, builder.typeOf bound] ++ types ++
      [MachineType.i8]).length := by
    rw [List.append_assoc, List.length_append]
    exact Nat.lt_add_right _ Nat.one_lt_two
  exact Builder.typeOf_add rfl hindex

/-- What is carried for the locals is of the given types. -/
theorem map_typeOf_enter :
    (List.range' (builder.types.length + 2) types.length).map
      (loop.enter bound types builder).typeOf = types := by
  apply List.ext_getElem
  · rw [List.length_map, List.length_range']
  · intro place _ hplace
    have hplaced : place + 2 <
        ([builder.typeOf bound, builder.typeOf bound] ++ types ++ [MachineType.i8]).length := by
      simp only [List.length_append, List.length_cons, List.length_nil]
      omega
    rw [List.getElem_map, List.getElem_range', Nat.one_mul, Nat.add_assoc, Nat.add_comm 2 place]
    apply (Builder.typeOf_add rfl hplaced).trans
    exact List.getElem_append_left hplace

theorem extends_enter (h : types.length = builder.locals.length) :
    builder.Extends [loop.counter]
      (List.range' builder.types.length (builder.locals.length + 3))
      (loop.enter bound types builder) where
  types := by
    refine ⟨_, rfl, ?_⟩
    simp only [List.length_append, List.length_cons, List.length_nil, h]
    congr 1
    omega
  names := fun _ hname => Association.lookup_cons_of_ne _ _ (List.ne_of_not_mem_cons hname)
  locals := List.length_range'

end Enter

/-- What a loop is entered with keeps its types in the body and after it. -/
theorem typeOf_of_extends {loop : CountedLoop} {bound : ValueId} {types : List MachineType}
    {builder middle ended : Builder} {names : List String} {values : List ValueId}
    (h : (loop.enter bound types builder).Extends names values middle) {more : List MachineType}
    (hended : ended.types = middle.types ++ more) {value : Nat}
    (hvalue : value < builder.types.length + 3 + types.length) :
    ended.typeOf value = (loop.enter bound types builder).typeOf value := by
  rw [← length_enter loop bound types builder] at hvalue
  rw [← h.typeOf hvalue]
  exact Builder.typeOf_of_append hended (Nat.lt_of_lt_of_le hvalue h.length_le)

/-- The builder after a loop that started at one builder and whose body ended at another one. -/
def leave (bound : ValueId) (builder middle : Builder) : Builder :=
  let first := builder.types.length
  let inner := List.range' (first + 2) builder.locals.length
  { middle with
    types := middle.types ++ [builder.typeOf bound]
    locals := inner
    pending := []
    uses := middle.uses ++ [.close ((first + 1) :: inner)] }

theorem extends_leave (bound : ValueId) {builder middle : Builder}
    (h : middle.locals.length = builder.locals.length) :
    middle.Extends [] [middle.types.length] (leave bound builder middle) where
  types := ⟨[builder.typeOf bound], rfl, rfl⟩
  names := fun _ _ => rfl
  locals := List.length_range'.trans h.symm

end CountedLoop

/-- The parts of a loop that has been emitted: the value of its bound, the types of what it carries
for the locals, its body and the builder where that ended, what it carries for the locals, and what
comes after it. -/
structure LoopParts where
  bound : ValueId
  types : List MachineType
  pass : Code
  middle : Builder
  locals : List Carried
  tail : Code

namespace LoopParts

def header (parts : LoopParts) (builder : Builder) : LoopHeader :=
  let first := builder.types.length
  let test := first + 2 + builder.locals.length
  { carried :=
      { value := first + 1
        type := builder.typeOf parts.bound
        initial := first
        next := parts.middle.types.length } :: parts.locals
    instructions := [.compute test (.less (first + 1) parts.bound)]
    test := test }

def code (parts : LoopParts) (builder : Builder) : Code :=
  let first := builder.types.length
  let origin := Instruction.compute first (.constInt (builder.typeOf parts.bound) 0)
  let next := Instruction.compute parts.middle.types.length (.addImmediate (first + 1) 1)
  .prepend [origin]
    (.loop (parts.header builder) (parts.pass.append (.ofSteps [next])) parts.tail)

/-- How the parts of a loop come about. -/
structure Emitted (parts : LoopParts) (site : Site) (head : CountedLoop) (body rest : Script)
    (builder after : Builder) : Prop where
  bound : builder.names.lookup head.bound = some parts.bound
  length : parts.types.length = builder.locals.length
  types : (forall value, value ∈ builder.locals -> value < builder.types.length) ->
    parts.types = builder.locals.map builder.typeOf
  pass : Region.emit site body (head.enter parts.bound parts.types builder) =
    .ok parts.pass parts.middle
  value : parts.locals.map Carried.value =
    List.range' (builder.types.length + 2) builder.locals.length
  initial : parts.locals.map Carried.initial = builder.locals
  next : parts.locals.map Carried.next = parts.middle.locals
  type : forall one, one ∈ parts.locals ->
    one.type = (head.enter parts.bound parts.types builder).typeOf one.value
  tail : Region.emit site rest (CountedLoop.leave parts.bound builder parts.middle) =
    .ok parts.tail after

theorem Emitted.numbers_code {parts : LoopParts} {site : Site} {head : CountedLoop}
    {body rest : Script} {builder after : Builder}
    (h : parts.Emitted site head body rest builder after) :
    (parts.code builder).numbers =
      List.range' builder.types.length (builder.locals.length + 3) ++
        (parts.pass.numbers ++ parts.middle.types.length :: parts.tail.numbers) := by
  have hrange : List.range' builder.types.length (builder.locals.length + 3) =
      builder.types.length :: (builder.types.length + 1) ::
        (List.range' (builder.types.length + 2) builder.locals.length ++
          [builder.types.length + 2 + builder.locals.length]) := by
    rw [List.range'_succ, List.range'_succ, List.range'_1_concat]
  rw [hrange, ← h.value]
  simp only [code, header, Region.numbers_prepend, Region.numbers, LoopHeader.parameters,
    Region.numbers_append, Region.ofSteps, List.flatMap_cons, List.flatMap_nil, List.map_cons,
    Instruction.results, List.append_nil, List.nil_append, List.cons_append, List.append_assoc]

end LoopParts

namespace Region

theorem emit_step_eq_ok {site : Site} {first : Step} {rest : Script} {builder after : Builder}
    {code : Code} (h : emit site (.step first rest) builder = .ok code after) :
    exists middle tail, first.emit site builder = .ok ⟨⟩ middle ∧
      emit site rest middle.flush = .ok tail after ∧ code = prepend middle.pending tail := by
  rw [emit] at h
  rcases Emit.exists_of_bind_eq_ok h with ⟨_, middle, hfirst, hdrains⟩
  rcases Emit.exists_of_bind_eq_ok hdrains with ⟨_, _, hdrain, hemits⟩
  cases hdrain
  rcases Emit.exists_of_bind_eq_ok hemits with ⟨tail, _, hemit, hpure⟩
  cases hpure
  exact ⟨middle, tail, hfirst, hemit, rfl⟩

/-- A loop is emitted by way of its body, what it carries, and what comes after it. -/
theorem emit_loop (site : Site) (head : CountedLoop) (body rest : Script) {builder : Builder}
    {bound : ValueId} (hbound : builder.names.lookup head.bound = some bound)
    (hpending : builder.pending = []) :
    let first := builder.types.length
    let inner := List.range' (first + 2) builder.locals.length
    let origin := Instruction.compute first (.constInt (builder.typeOf bound) 0)
    let test := first + 2 + builder.locals.length
    exists types, types.length = builder.locals.length ∧
      ((forall value, value ∈ builder.locals -> value < first) ->
        types = builder.locals.map builder.typeOf) ∧
      emit site (.loop head body rest) builder =
        match emit site body (head.enter bound types builder) with
        | .ok pass middle =>
            let next := Instruction.compute middle.types.length (.addImmediate (first + 1) 1)
            match Emit.carried ((first + 1) :: inner) (first :: builder.locals)
              (middle.types.length :: middle.locals)
              { middle with
                types := middle.types ++ [middle.typeOf (first + 1)]
                pending := [] } with
            | .ok table ended =>
                match emit site rest
                  { ended with
                    locals := inner
                    uses := ended.uses ++ [.close ((first + 1) :: inner)] } with
                | .ok tail after =>
                    .ok
                      (prepend [origin]
                        (loop
                          { carried := table
                            instructions := [.compute test (.less (first + 1) bound)]
                            test := test }
                          (pass.append (ofSteps (middle.pending ++ [next]))) tail))
                      after
                | .error stop after => .error stop after
            | .error stop after => .error stop after
        | .error stop after => .error stop after := by
  let opened : Builder :=
    { builder with
      types := builder.types ++ [builder.typeOf bound] ++ [builder.typeOf bound]
      pending := [] }
  rcases Emit.run_another builder.locals opened with ⟨types, hlength, htypes, hanother⟩
  have horigin : Builder.typeOf
      { builder with types := builder.types ++ [builder.typeOf bound], pending := [] }
      builder.types.length = builder.typeOf bound := Builder.typeOf_length rfl
  have hfirst : (builder.types ++ [builder.typeOf bound]).length = builder.types.length + 1 := by
    rw [List.length_append, List.length_singleton]
  have hopened : opened.types.length = builder.types.length + 2 := by
    rw [List.length_append, hfirst, List.length_singleton]
  have htest : (opened.types ++ types).length =
      builder.types.length + 2 + builder.locals.length := by
    rw [List.length_append, hopened, hlength]
  have hmore : opened.types = builder.types ++ [builder.typeOf bound, builder.typeOf bound] :=
    List.append_assoc _ _ _
  have hall : opened.types ++ types ++ [.i8] =
      builder.types ++ ([builder.typeOf bound, builder.typeOf bound] ++ types ++ [.i8]) := by
    rw [hmore, List.append_assoc, List.append_assoc, List.append_assoc]
  refine ⟨types, hlength, ?_, ?_⟩
  · intro houter
    rw [htypes]
    · apply List.map_congr_left
      intro value hvalue
      exact Builder.typeOf_of_append hmore (houter value hvalue)
    · intro value hvalue
      rw [hopened]
      exact Nat.lt_add_right 2 (houter value hvalue)
  · simp only [emit, CountedLoop.start, CountedLoop.header, Emit.openLoop, Emit.closeLoop,
      Emit.typeOf, Emit.locals, Emit.setLocals, Emit.recordUse, Action.run_bind, Action.run_get,
      Action.run_pure, Action.run_modify, Emit.run_valueOf hbound, Emit.run_compute,
      Emit.run_drain, Emit.run_fresh, Emit.run_bind, Operation.resultType, hpending,
      List.nil_append, horigin]
    rw [hanother]
    simp only [hfirst, hopened, htest, hall]
    have hstart : Builder.mk
        (builder.types ++ ([builder.typeOf bound, builder.typeOf bound] ++ types ++ [.i8]))
        ((head.counter, builder.types.length + 1) :: opened.names) opened.localNames
        (List.range' (builder.types.length + 2) builder.locals.length) opened.slots []
        (opened.uses ++ [.read (builder.types.length + 1)]) opened.notes =
        head.enter bound types builder := rfl
    rw [hstart]
    cases emit site body (head.enter bound types builder) with
    | error stop after => rfl
    | ok pass middle =>
        simp only
        split
        · rename_i hcarried
          rw [hcarried]
          simp only
          split
          · rename_i htail
            rw [htail]
            rfl
          · rename_i htail
            rw [htail]
        · rename_i hcarried
          rw [hcarried]

theorem emit_loop_eq_ok {site : Site} {head : CountedLoop} {body rest : Script}
    {builder after : Builder} {code : Code}
    (h : emit site (.loop head body rest) builder = .ok code after)
    (hpending : builder.pending = [])
    (hbody : forall start pass middle, emit site body start = .ok pass middle ->
      start.pending = [] -> middle.pending = [] ∧
        exists names values, start.Extends names values middle) :
    exists parts : LoopParts,
      parts.Emitted site head body rest builder after ∧ code = parts.code builder := by
  cases hbound : builder.names.lookup head.bound with
  | none =>
      simp only [emit, CountedLoop.start, Emit.valueOf, Action.run_bind, Action.run_get,
        hbound] at h
      cases h
  | some bound =>
      rcases emit_loop site head body rest hbound hpending with ⟨types, hlength, htypes, hrun⟩
      rw [hrun] at h
      split at h
      · rename_i pass middle hpass
        rcases hbody (head.enter bound types builder) pass middle hpass rfl with
          ⟨hdone, names, values, hextends⟩
        have hindex : builder.types.length + 1 < builder.types.length + 3 + types.length := by
          omega
        have hcounter : middle.typeOf (builder.types.length + 1) = builder.typeOf bound :=
          (CountedLoop.typeOf_of_extends hextends (List.append_nil _).symm hindex).trans
            (CountedLoop.typeOf_enter_index head bound types builder)
        simp only [hcounter] at h
        split at h
        · rename_i table last htable
          rcases Emit.carried_cons_eq_ok htable with ⟨locals, hlocals, rfl⟩
          have hlengths : middle.locals.length = builder.locals.length := by
            rw [hextends.locals]
            exact List.length_range'
          rcases Emit.carried_eq_ok hlocals List.length_range'
            (List.length_range'.trans hlengths.symm) with
            ⟨hlast, hvalue, hinitial, hnext, htyped⟩
          rw [hlast] at h
          split at h
          · rename_i tail left htail
            cases h
            have hlocal : forall one, one ∈ locals ->
                one.type = (head.enter bound types builder).typeOf one.value := by
              intro one hone
              have hmem := List.mem_map_of_mem (f := Carried.value) hone
              rw [hvalue, List.mem_range'_1] at hmem
              rw [htyped one hone]
              apply CountedLoop.typeOf_of_extends hextends rfl
              omega
            exists
              { bound := bound
                types := types
                pass := pass
                middle := middle
                locals := locals
                tail := tail }
            constructor
            · exact ⟨hbound, hlength, htypes, hpass, hvalue, hinitial, hnext, hlocal, htail⟩
            · have htype : Builder.typeOf
                  { middle with types := middle.types ++ [builder.typeOf bound], pending := [] }
                  (builder.types.length + 1) = builder.typeOf bound :=
                (CountedLoop.typeOf_of_extends hextends rfl hindex).trans
                  (CountedLoop.typeOf_enter_index head bound types builder)
              simp only [LoopParts.code, LoopParts.header, hdone, htype, List.nil_append]
          · cases h
        · cases h
      · cases h

/-- What a script is emitted to binds the new values in turn, each of them once. -/
theorem grows_emit (site : Site) (script : Script) {builder after : Builder} {code : Code}
    (h : emit site script builder = .ok code after) (hpending : builder.pending = []) :
    after.pending = [] ∧
      builder.Extends (Script.binds site.signatureOf? script) code.numbers after ∧
        after.progress = Script.progress builder.progress script := by
  induction script generalizing builder code after with
  | done =>
      cases h
      exact ⟨hpending, .refl builder, rfl⟩
  | step first rest ih =>
      rcases emit_step_eq_ok h with ⟨middle, tail, hfirst, hemit, rfl⟩
      rcases first.grows_emit site builder _ middle hfirst with
        ⟨more, hmore, hextends, hprogress⟩
      rw [hpending, List.nil_append] at hmore
      rcases ih hemit rfl with ⟨hdone, hrest, hlast⟩
      have hlater : middle.Extends (Script.binds site.signatureOf? rest) tail.numbers after :=
        ⟨hrest.types, hrest.names, hrest.locals⟩
      constructor
      · exact hdone
      · constructor
        · rw [hmore, numbers_prepend]
          exact hextends.trans hlater
        · have hprogressed : middle.flush.progress = first.progress builder.progress := hprogress
          rw [hlast, Script.progress, hprogressed]
  | loop head body rest ihBody ihRest =>
      have hbody : forall start pass middle, emit site body start = .ok pass middle ->
          start.pending = [] -> middle.pending = [] ∧
            exists names values, start.Extends names values middle := by
        intro start pass middle hemit hstart
        rcases ihBody hemit hstart with ⟨hdone, hextends, _⟩
        exact ⟨hdone, _, _, hextends⟩
      rcases emit_loop_eq_ok h hpending hbody with ⟨parts, hparts, rfl⟩
      rcases ihBody hparts.pass rfl with ⟨_, hpass, hinside⟩
      rcases ihRest hparts.tail rfl with ⟨hdone, htail, hlast⟩
      have henter := head.extends_enter parts.bound parts.types builder hparts.length
      have hleave := CountedLoop.extends_leave parts.bound (hpass.locals.trans List.length_range')
      constructor
      · exact hdone
      · constructor
        · have hall := ((henter.trans hpass).trans hleave).trans htail
          simp only [List.append_nil, List.append_assoc, List.singleton_append] at hall
          rw [hparts.numbers_code]
          exact hall
        · rw [hlast, Script.progress]
          exact congrArg (Script.progress · rest) hinside

end Region
end Provision
