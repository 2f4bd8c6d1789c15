import Provision.Proofs.Module.Failing
import Provision.Proofs.Module.Numbering
import Provision.Proofs.Provider.Tenure
import Provision.Proofs.Session.Definitions

/-!
# Linkage and code

Whether a function has code is told by its linkage, but for one case.  A definition that fails over
its signature has merged its linkage into the declaration before: what was an import may then have
a linkage to be defined under, and no code.
-/

namespace Provision

/-! ## Clashes -/

/-- A function may have code after a further declaration if one of the two linkages allows for
it. -/
theorem Linkage.isDefinable_merge_eq (old new : Linkage) :
    (old.merge new).isDefinable = (old.isDefinable || new.isDefinable) := by
  cases old
  all_goals
    cases new
    all_goals rfl

/-- The name of the function over whose signature a definition has failed, if the definition was to
be under a linkage that allows for code. -/
def clashes (linkage : Linkage) : Except Stop FuncId -> List String
  | .error (.fault (.declaration name .incompatibleSignature)) =>
      if linkage.isDefinable then [name] else []
  | _ => []

theorem clashes_of_ne {linkage : Linkage} {fault : Fault}
    (h : forall name, fault ≠ .declaration name .incompatibleSignature) :
    clashes linkage (.error (.fault fault)) = [] := by
  unfold clashes
  split
  · rename_i name heq
    cases heq
    exact absurd rfl (h name)
  · rfl

theorem eq_of_mem_clashes {linkage : Linkage} {name other : String} {conflict : Conflict}
    (h : other ∈ clashes linkage (.error (.fault (.declaration name conflict)))) :
    other = name := by
  unfold clashes at h
  split at h
  · rename_i heq
    cases heq
    split at h
    · exact List.mem_singleton.mp h
    · cases h
  · cases h

/-! ## Settled modules -/

/-- A function with code has a linkage that allows for it, and one without code has such a linkage
exactly if it goes by one of the given names. -/
def Declaration.Settled (clashed : List String) (declaration : Declaration) : Prop :=
  match declaration.code with
  | some _ => declaration.linkage.isDefinable = true
  | none => declaration.linkage.isDefinable = true ↔ declaration.name ∈ clashed

/-- The names are those of functions over whose signatures definitions have failed. -/
structure Module.Settled (clashed : List String) (module : Module) : Prop where
  nodup : module.names.Nodup
  known : forall name, name ∈ clashed -> name ∈ module.names
  settled : forall id declaration, module.declaration? id = some declaration ->
    declaration.Settled clashed

namespace Declaration

variable {clashed more : List String} {declaration : Declaration}

theorem settled_of_definable_iff_code
    (h : declaration.linkage.isDefinable = declaration.code.isSome)
    (hname : declaration.name ∉ clashed) : declaration.Settled clashed := by
  unfold Settled
  cases hcode : declaration.code with
  | some procedure =>
      rw [hcode] at h
      exact h
  | none =>
      rw [hcode] at h
      rw [h]
      simp [hname]

/-- Other names do not matter. -/
theorem Settled.congr (h : declaration.Settled clashed)
    (hname : declaration.name ∈ more ↔ declaration.name ∈ clashed) :
    declaration.Settled more := by
  unfold Settled at h ⊢
  cases hcode : declaration.code with
  | some procedure =>
      rw [hcode] at h
      exact h
  | none =>
      rw [hcode] at h
      exact h.trans hname.symm

/-- A definition that fails over a declared function leaves it settled, with its name noted if the
definition was to give it a linkage. -/
theorem Settled.merged (h : declaration.Settled clashed) {linkage : Linkage}
    {signature : MachineSignature} {conflict : Conflict}
    (hconflict : declaration.conflict? linkage signature = some conflict) :
    (declaration.merged linkage).Settled
      (clashed ++ clashes linkage (.error (.fault (.declaration declaration.name conflict)))) := by
  have hmerged : (declaration.merged linkage).linkage.isDefinable =
      (declaration.linkage.isDefinable || linkage.isDefinable) :=
    Linkage.isDefinable_merge_eq declaration.linkage linkage
  unfold Settled at h ⊢
  have hsame : (declaration.merged linkage).code = declaration.code := rfl
  rw [hmerged, hsame]
  unfold conflict? at hconflict
  rw [hmerged, hsame] at hconflict
  cases hcode : declaration.code with
  | some procedure =>
      rw [hcode] at h
      simp only at h ⊢
      rw [h, Bool.true_or]
  | none =>
      rw [hcode] at h hconflict
      simp only at h ⊢
      rw [Bool.or_eq_true, h, List.mem_append]
      apply or_congr_right
      -- Without code there is no other conflict over a linkage that allows for it.
      split at hconflict
      · split at hconflict
        · rename_i hunfit
          cases hconflict
          cases hlinkage : linkage.isDefinable with
          | false => simp [clashes]
          | true => simp [hlinkage] at hunfit
        · cases hconflict
      · cases hconflict
        have hname : (declaration.merged linkage).name = declaration.name := rfl
        simp [clashes, hname]

end Declaration

namespace Module.Settled

variable {clashed more : List String} {module : Module}

theorem of_functions (h : module.Settled clashed) {after : Module}
    (hfunctions : after.functions = module.functions) : after.Settled clashed where
  nodup := by
    rw [names, hfunctions]
    exact h.nodup
  known := by
    rw [names, hfunctions]
    exact h.known
  settled := by
    intro id declaration hdeclaration
    rw [declaration?, hfunctions] at hdeclaration
    exact h.settled id declaration hdeclaration

theorem push (h : module.Settled clashed) {declaration : Declaration}
    (hfree : module.lookup? declaration.name = none)
    (hcode : declaration.linkage.isDefinable = declaration.code.isSome) :
    (module.push declaration).Settled clashed := by
  have hnew : declaration.name ∉ module.names := lookup?_eq_none_iff.mp hfree
  refine ⟨nodup_names_push h.nodup hnew, ?_, ?_⟩
  · intro name hname
    rw [names_push]
    exact List.mem_append_left _ (h.known name hname)
  · intro id found hfound
    rcases declaration?_push_cases hfound with hold | ⟨_, rfl⟩
    · exact h.settled id found hold
    · apply Declaration.settled_of_definable_iff_code hcode
      exact fun hname => hnew (h.known _ hname)

/-- A function that goes by a name becomes another one, and only its name may be noted. -/
theorem update (h : module.Settled clashed) {name : String} {id : FuncId} {old : Declaration}
    (hid : module.lookup? name = some id) (hold : module.declaration? id = some old)
    {change : Declaration -> Declaration}
    (hname : forall declaration, (change declaration).name = declaration.name)
    (hothers : forall other, other ≠ name -> (other ∈ more ↔ other ∈ clashed))
    (hsettled : (change old).Settled more) : (module.update id change).Settled more := by
  have hnames : (module.update id change).names = module.names :=
    names_modify hname module.functions id.index
  refine ⟨?_, ?_, ?_⟩
  · rw [hnames]
    exact h.nodup
  · intro other hother
    rw [hnames]
    by_cases heq : other = name
    · rw [heq]
      exact mem_names_of_lookup? hid
    · exact h.known other ((hothers other heq).mp hother)
  · intro other declaration hdeclaration
    by_cases heq : other = id
    · subst heq
      rw [declaration?_update_self, hold] at hdeclaration
      cases hdeclaration
      exact hsettled
    · rw [declaration?_update_of_ne module change heq] at hdeclaration
      apply (h.settled other declaration hdeclaration).congr
      apply hothers
      intro hsame
      have hother := lookup?_name h.nodup hdeclaration
      rw [hsame, hid] at hother
      exact heq (Option.some.inj hother).symm

end Module.Settled

/-! ## Definitions -/

theorem Module.update_update (module : Module) (id : FuncId)
    (first second : Declaration -> Declaration) :
    (module.update id first).update id second = module.update id (second ∘ first) := by
  simp [update, List.modify_modify_eq]

theorem Declaration.definable_of_conflict?_eq_none {old : Declaration} {linkage : Linkage}
    {signature : MachineSignature} (h : old.conflict? linkage signature = none) :
    (old.merged linkage).linkage.isDefinable = true := by
  unfold conflict? at h
  split at h
  · split at h
    · cases h
    · rename_i hdefinable
      simpa using hdefinable
  · cases h

namespace Module.Settled

variable {clashed : List String} {unit : CompilationUnit}

/-- A conflict over a name is a clash, or leaves the module settled as it was. -/
theorem refuses {before after : Module} (h : before.Settled clashed) {name : String}
    {linkage : Linkage} {signature : MachineSignature} {conflict : Conflict}
    (hrefuses : before.Refuses name linkage signature conflict after) :
    after.Settled
      (clashed ++ clashes linkage (.error (.fault (.declaration name conflict)))) := by
  cases hrefuses with
  | data =>
      show Settled (clashed ++ []) before
      rw [List.append_nil]
      exact h
  | imported hfree =>
      show Settled (clashed ++ []) (before.push _)
      rw [List.append_nil]
      exact h.push hfree rfl
  | @known id old _ hid hold hconflict =>
      rcases name_of_lookup? hid with ⟨found, hfound, hname⟩
      rw [hold] at hfound
      cases hfound
      have hmerged := (h.settled id old hold).merged hconflict
      rw [hname] at hmerged
      refine h.update hid hold (fun _ => rfl) ?_ hmerged
      intro other hother
      rw [List.mem_append, or_iff_left]
      exact fun hmem => hother (eq_of_mem_clashes hmem)

/-- A function that could be defined has its code, and a linkage that allows for it. -/
theorem defined (h : unit.module.Settled clashed) {name : String} {sig : Signature}
    {linkage : Linkage} {body : Body} {id : FuncId} {after : CompilationUnit}
    (hrun : CompilationUnit.define name sig linkage body unit = .ok id after) :
    after.module.Settled clashed := by
  cases hprocedure : unit.procedure name sig body with
  | error stop =>
      rw [CompilationUnit.define_of_stop hprocedure] at hrun
      cases hrun
  | ok procedure =>
      cases hlookup : unit.lookup? name with
      | some found =>
          rcases name_of_lookup? hlookup with ⟨old, hold, _⟩
          rw [CompilationUnit.define_of_known hprocedure hlookup hold] at hrun
          split at hrun
          · cases hrun
          · rename_i hconflict
            split at hrun
            · cases hrun
            · cases hrun
              simp only [update_update]
              refine h.update hlookup hold (fun _ => rfl) (fun _ _ => Iff.rfl) ?_
              exact Declaration.definable_of_conflict?_eq_none hconflict
      | none =>
          by_cases hdata : name ∈ unit.module.data
          · rw [CompilationUnit.define_of_data hprocedure hlookup hdata] at hrun
            cases hrun
          · cases hlinkage : linkage.isDefinable with
            | false =>
                rw [CompilationUnit.define_of_imported hprocedure hlookup hdata hlinkage] at hrun
                cases hrun
            | true =>
                rcases CompilationUnit.define_eq_ok hlookup hlinkage hrun with ⟨_, _, _, hmodule⟩
                rw [hmodule]
                exact h.push hlookup hlinkage

theorem define (h : unit.module.Settled clashed) (name : String) (sig : Signature)
    (linkage : Linkage) (body : Body)
    (hgoes : forall misuse,
      (CompilationUnit.define name sig linkage body).answer unit ≠ .error (.misuse misuse)) :
    ((CompilationUnit.define name sig linkage body).leaves unit).module.Settled
      (clashed ++
        clashes linkage ((CompilationUnit.define name sig linkage body).answer unit)) := by
  unfold Action.answer at hgoes ⊢
  unfold Action.leaves
  cases hrun : CompilationUnit.define name sig linkage body unit with
  | error stop after =>
      rw [hrun] at hgoes
      cases stop with
      | misuse misuse => exact absurd rfl (hgoes misuse)
      | fault fault =>
          rcases CompilationUnit.define_eq_fault hrun with
            ⟨hfault, rfl⟩ | ⟨_, conflict, module, rfl, hrefuses, rfl⟩
          · rw [clashes_of_ne, List.append_nil]
            · exact h
            · intro other
              rcases hfault with hscript | ⟨_, rfl⟩
              · rcases Script.fault?_cases hscript with ⟨_, rfl⟩ | ⟨_, rfl⟩
                all_goals exact fun heq => nomatch heq
              · exact fun heq => nomatch heq
          · exact h.refuses hrefuses
  | ok id after =>
      simp only [clashes, List.append_nil]
      exact h.defined hrun

theorem declareImport (h : unit.module.Settled clashed) (name : String) (sig : Signature) :
    ((CompilationUnit.declareImport name sig).leaves unit).module.Settled clashed := by
  cases hlookup : unit.lookup? name with
  | some id =>
      rw [Action.leaves, CompilationUnit.declareImport_of_known hlookup]
      exact h
  | none =>
      by_cases hdata : name ∈ unit.module.data
      · rw [Action.leaves, CompilationUnit.declareImport_of_data hlookup hdata]
        exact h
      · have hrun : CompilationUnit.declareImport name sig unit = .ok _ _ :=
          CompilationUnit.declareImport_of_free hlookup hdata
        rw [Action.leaves_of_ok hrun]
        exact h.push hlookup rfl

end Module.Settled

/-! ## Requests -/

/-- A function that has been put behind others has a new name. -/
theorem Module.Appends.name_notMem {before after : Module} (h : before.Appends after) {id : FuncId}
    {declaration : Declaration} (hbefore : before.declaration? id = none)
    (hafter : after.declaration? id = some declaration) : declaration.name ∉ before.names := by
  induction h with
  | refl =>
      rw [hbefore] at hafter
      cases hafter
  | @push after h pushed hfree ih =>
      rcases declaration?_push_cases hafter with hold | ⟨_, rfl⟩
      · exact ih hold
      · exact fun hname => hfree (h.grows.subset hname)

theorem Module.Appends.nodup {before after : Module} (h : before.Appends after)
    (hnodup : before.names.Nodup) : after.names.Nodup := by
  induction h with
  | refl => exact hnodup
  | push _ declaration hfree ih => exact nodup_names_push ih hfree

/-- What a plan is made to has code exactly if its linkage allows for it. -/
theorem Plan.Yields.isDefinable_eq {plan : Plan} {unit : CompilationUnit}
    {declaration : Declaration} (h : plan.Yields unit declaration) (haccepted : plan.IsAccepted) :
    declaration.linkage.isDefinable = declaration.code.isSome := by
  rcases h.code with ⟨number, _, hcode⟩
  rw [h.linkage]
  unfold Plan.code at hcode
  cases hbody : plan.body with
  | none =>
      rw [IsAccepted, hbody] at haccepted
      rw [hbody] at hcode
      simp only [Except.ok.injEq] at hcode
      rw [haccepted, ← hcode]
      rfl
  | some body =>
      rw [(haccepted.spec hbody).left]
      simp only [hbody] at hcode
      cases hprocedure : unit.procedure plan.symbol.name plan.sig (body.renumber number) with
      | error stop =>
          rw [hprocedure] at hcode
          cases hcode
      | ok procedure =>
          rw [hprocedure] at hcode
          have hsome : some procedure = declaration.code := Except.ok.inj hcode
          rw [← hsome]
          rfl

/-- Requests make functions with code under linkages that allow for it, and others as imports. -/
theorem Module.Settled.request {clashed : List String} {provider : Provider}
    (h : provider.unit.module.Settled clashed) (hcoherent : provider.Coherent)
    (wanted : Request) :
    ((Provider.request wanted).leaves provider).unit.module.Settled clashed := by
  have happends := (Provider.always_request wanted provider hcoherent).left.unit.module
  refine ⟨happends.nodup h.nodup, fun name hname => happends.grows.subset (h.known name hname), ?_⟩
  intro id declaration hafter
  cases hbefore : provider.unit.module.declaration? id with
  | some old =>
      have hstill := happends.declaration? hbefore
      rw [hafter] at hstill
      cases hstill
      exact h.settled id declaration hbefore
  | none =>
      have hnew := happends.name_notMem hbefore hafter
      rcases (hcoherent.request_serves wanted).authors hcoherent hbefore hafter with
        ⟨plan, unit, hauthors, _⟩
      apply Declaration.settled_of_definable_iff_code
        (hauthors.yields.isDefinable_eq hauthors.regards.isAccepted)
      exact fun hname => hnew (h.known _ hname)

/-! ## Sessions -/

namespace Session

/-- What happens to a module until it is linked, with the names of the functions over whose
signatures definitions fail.  Every step may succeed or fail; misuse ends a session. -/
inductive Run (first : CompilationUnit) : List String -> Holder -> Prop where
  | start : Run first [] (.emitter first)
  | serve {clashed : List String} {provider : Provider} (h : Run first clashed (.provider provider))
      (wanted : Request) : Run first clashed (.provider ((Provider.request wanted).leaves provider))
  | declare {clashed : List String} {holder : Holder} (h : Run first clashed holder)
      (name : String) (sig : Signature) :
      Run first clashed (holder.after (CompilationUnit.declareImport name sig))
  | define {clashed : List String} {holder : Holder} (h : Run first clashed holder)
      (name : String) (sig : Signature) (linkage : Linkage) (body : Body)
      (hgoes : forall misuse, (CompilationUnit.define name sig linkage body).answer holder.unit ≠
        .error (.misuse misuse)) :
      Run first
        (clashed ++
          clashes linkage ((CompilationUnit.define name sig linkage body).answer holder.unit))
        (holder.after (CompilationUnit.define name sig linkage body))
  | lend {clashed : List String} {holder : Holder} (h : Run first clashed holder)
      (config : Config) : Run first clashed (.provider (.start holder.unit config))
  | rewrap {clashed : List String} {holder : Holder} (h : Run first clashed holder)
      (data : List String) (name : String) (target : Target) (layout : TimeLayout) :
      Run first clashed (.emitter (holder.unit.rewrapped data name target layout))

namespace Run

variable {first : CompilationUnit} {clashed : List String} {holder : Holder}

theorem exists_history (h : Run first clashed holder) :
    exists services, History first services holder := by
  induction h with
  | start => exact ⟨[], .start⟩
  | serve _ wanted ih =>
      rcases ih with ⟨services, hhistory⟩
      exact ⟨_, hhistory.serve wanted⟩
  | declare _ name sig ih =>
      rcases ih with ⟨services, hhistory⟩
      exact ⟨services, hhistory.declare name sig⟩
  | define _ name sig linkage body _ ih =>
      rcases ih with ⟨services, hhistory⟩
      exact ⟨services, hhistory.define name sig linkage body⟩
  | lend _ config ih =>
      rcases ih with ⟨services, hhistory⟩
      exact ⟨services, hhistory.lend config⟩
  | rewrap _ data name target layout ih =>
      rcases ih with ⟨services, hhistory⟩
      exact ⟨services, hhistory.rewrap data name target layout⟩

theorem settled (h : Run first clashed holder) (hfirst : first.module.functions = []) :
    holder.unit.module.Settled clashed := by
  induction h with
  | start =>
      refine ⟨?_, by simp, ?_⟩
      · simp [Holder.unit, Module.names, hfirst]
      · intro id declaration hdeclaration
        rw [Holder.unit, Module.declaration?, hfirst] at hdeclaration
        cases hdeclaration
  | serve h wanted ih =>
      rcases h.exists_history with ⟨services, hhistory⟩
      exact ih.request hhistory.account.right wanted
  | declare _ name sig ih =>
      rw [Holder.unit_after]
      exact ih.declareImport name sig
  | define _ name sig linkage body hgoes ih =>
      rw [Holder.unit_after]
      exact ih.define name sig linkage body hgoes
  | lend _ config ih => exact ih
  | @rewrap clashed holder _ data name target layout ih =>
      exact ih.of_functions (holder.unit.functions_declareData data)

end Run

section Programs

variable {σ : Type} {name : String} {target : Target} {table : HostTable (HostFunction σ)}
  {clashed : List String} {holder : Holder} {entries : List FuncId} {program : Executable σ}
  {log : Log} {id : FuncId} {declaration : Declaration}

theorem link_of_bound {session : Session σ} (h : session.unbound? entries = none) :
    session.link entries = .ok (session.executable, [.linked session.unit.name]) := by
  rw [Session.link, h]

/-- A program has the code of every function with code.  That there is none is answered as such
unless a definition of the function has failed over its signature, and is misuse then. -/
theorem code_of_run (h : Run (start name target table).unit clashed holder)
    (hlink : Session.link { unit := holder.unit, table := table } entries = .ok (program, log))
    (hdeclaration : program.module.declaration? id = some declaration) :
    program.code id =
      match declaration.code with
      | some procedure => .ok procedure
      | none =>
          if declaration.name ∈ clashed then .error (.misuse .missingCode)
          else .error (.noCode declaration.name) := by
  rw [Session.eq_of_link hlink] at hdeclaration ⊢
  have hmodule : (executable { unit := holder.unit, table := table }).module = holder.unit.module :=
    rfl
  rw [hmodule] at hdeclaration
  have hsettled := (h.settled rfl).settled id declaration hdeclaration
  unfold Declaration.Settled at hsettled
  simp only [Executable.code, hmodule, hdeclaration]
  cases hcode : declaration.code with
  | some procedure =>
      rw [hcode] at hsettled
      simp only at hsettled
      rw [if_neg (by simp [hsettled])]
  | none =>
      rw [hcode] at hsettled
      by_cases hclashed : declaration.name ∈ clashed
      · have hdefinable := hsettled.mpr hclashed
        rw [if_neg (by simp [hdefinable])]
        exact (if_pos hclashed).symm
      · have hfixed : ¬ declaration.linkage.isDefinable = true := fun hdefinable =>
          hclashed (hsettled.mp hdefinable)
        rw [if_pos (by simpa using hfixed)]
        exact (if_neg hclashed).symm

/-- A function that is defined, one that a provider imports, and one that was declared as an import
before its definition failed. -/
theorem code_of_run_cases :
    let first : Session Unit := start "unit" { os := .posix, intWidth := .unspecified } .empty
    let body : Body := { script := .done, returns := [] }
    let wanted : Signature := { params := [.int64], returns := none }
    let clash := CompilationUnit.define "f" wanted .internal body
    let define := CompilationUnit.define "g" wanted .exported body
    let declared := (Holder.emitter first.unit).after
      (CompilationUnit.declareImport "f" { params := [.int32], returns := none })
    let lent := Provider.start ((declared.after clash).after define).unit .standard
    let holder := Holder.provider ((Provider.request .getThreads).leaves lent)
    let program := executable { unit := holder.unit, table := first.table }
    Run first.unit ["f"] holder ∧ (exists log,
      Session.link { unit := holder.unit, table := first.table } [] = .ok (program, log)) ∧
        program.code { index := 0 } = .error (.misuse .missingCode) ∧
          (program.code { index := 1 }).isOk = true ∧
            program.code { index := 2 } = .error (.noCode Symbol.getThreads.name) := by
  intro first body wanted clash define declared lent holder program
  have hclash : clash.answer declared.unit =
      .error (.fault (.declaration "f" .incompatibleSignature)) := by
    decide +kernel
  have hdefine : define.answer (declared.after clash).unit = .ok { index := 1 } := by
    decide +kernel
  have hfailed := (Run.start.declare "f" { params := [.int32], returns := none }).define "f" wanted
    .internal body (by rw [hclash]; exact fun _ heq => nomatch heq)
  rw [hclash] at hfailed
  have hdefined := hfailed.define "g" wanted .exported body
    (by rw [hdefine]; exact fun _ heq => nomatch heq)
  rw [hdefine] at hdefined
  have hrun : Run first.unit ["f"] holder := (hdefined.lend .standard).serve .getThreads
  have hunbound : unbound? { unit := holder.unit, table := first.table } [] = none := by
    decide +kernel
  have hlink := link_of_bound hunbound
  refine ⟨hrun, ⟨_, hlink⟩, ?_, ?_, ?_⟩
  · have hdeclaration : program.module.declaration? { index := 0 } =
        some
          { name := "f", linkage := .internal, signature := { params := [.i32], returns := [] },
            code := none } := by
      decide +kernel
    exact code_of_run hrun hlink hdeclaration
  · have hcoded : ((program.module.declaration? { index := 1 }).bind Declaration.code).isSome =
        true := by
      decide +kernel
    rcases Option.isSome_iff_exists.mp hcoded with ⟨procedure, hprocedure⟩
    rcases Option.bind_eq_some_iff.mp hprocedure with ⟨declaration, hdeclaration, hcode⟩
    rw [code_of_run hrun hlink hdeclaration, hcode]
    rfl
  · have hdeclaration : program.module.declaration? { index := 2 } =
        some
          { name := Symbol.getThreads.name, linkage := .imported,
            signature := { params := [], returns := [.i32] }, code := none } := by
      decide +kernel
    exact code_of_run hrun hlink hdeclaration

/-- Not every function without code is answered for as such: a definition that fails has made what
was an import internal. -/
theorem code_ne_noCode :
    let first : Session Unit := start "unit" { os := .posix, intWidth := .unspecified } .empty
    let clash := CompilationUnit.define "f" { params := [.int64], returns := none } .internal
      { script := .done, returns := [] }
    let declared := (Holder.emitter first.unit).after
      (CompilationUnit.declareImport "f" { params := [.int32], returns := none })
    let holder := declared.after clash
    let program := executable { unit := holder.unit, table := first.table }
    let declaration : Declaration :=
      { name := "f", linkage := .internal, signature := { params := [.i32], returns := [] },
        code := none }
    Run first.unit ["f"] holder ∧ (exists log,
      Session.link { unit := holder.unit, table := first.table } [] = .ok (program, log)) ∧
        program.module.declaration? { index := 0 } = some declaration ∧
          program.code { index := 0 } ≠ .error (.noCode declaration.name) := by
  intro first clash declared holder program declaration
  have hclash : clash.answer declared.unit =
      .error (.fault (.declaration "f" .incompatibleSignature)) := by
    decide +kernel
  have hrun := (Run.start.declare "f" { params := [.int32], returns := none }).define "f"
    { params := [.int64], returns := none } .internal { script := .done, returns := [] }
    (by rw [hclash]; exact fun _ heq => nomatch heq)
  rw [hclash] at hrun
  have hunbound : unbound? { unit := holder.unit, table := first.table } [] = none := by
    decide +kernel
  exact ⟨hrun, ⟨_, link_of_bound hunbound⟩, by decide +kernel, by decide +kernel⟩

end Programs
end Session
end Provision
