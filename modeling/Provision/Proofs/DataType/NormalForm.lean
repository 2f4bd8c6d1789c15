import Provision.DataType.Serial

/-!
# Normal forms of serialized types

A type without a base can be written in two ways, as its tag and as an object whose only member is
the tag with `null`.  The normal form of a tree has the tag everywhere.  A tree reads as a type
exactly if its normal form is what the type is written as.
-/

namespace Provision

namespace DataType

/-- Tags of the types without a base. -/
def plainNames : List String :=
  plainTags.map Prod.fst

end DataType

namespace Document

/-! ## Trees that can be read -/

/-- A tree is a serialized type: a type without a base in one of its two forms, or a pointer to a
serialized type. -/
inductive Serialized : Document -> Prop where
  | plain {tag : String} (h : tag ∈ DataType.plainNames) : Serialized (text tag)
  | tagged {tag : String} (h : tag ∈ DataType.plainNames) : Serialized (object [(tag, null)])
  | pointer {payload : Document} (h : Serialized payload) :
      Serialized (object [(DataType.pointerTag, payload)])

/-! ## Normal forms -/

/-- The tag of a type without a base that is the only member of an object, with `null`. -/
def taggedNull? : List (String × Document) -> Option String
  | [(tag, null)] => if tag ∈ DataType.plainNames then some tag else none
  | _ => none

mutual

/-- The tree with the tag alone in place of every object that is a tag with `null`. -/
def normal : Document -> Document
  | null => null
  | bool value => bool value
  | number mantissa places => number mantissa places
  | text value => text value
  | array items => array (normalItems items)
  | object members =>
      match taggedNull? members with
      | some tag => text tag
      | none => object (normalMembers members)

def normalItems : List Document -> List Document
  | [] => []
  | item :: rest => item.normal :: normalItems rest

def normalMembers : List (String × Document) -> List (String × Document)
  | [] => []
  | (name, value) :: rest => (name, value.normal) :: normalMembers rest

end

theorem taggedNull?_eq_some_iff {members : List (String × Document)} {tag : String} :
    taggedNull? members = some tag ↔ tag ∈ DataType.plainNames ∧ members = [(tag, null)] := by
  unfold taggedNull?
  split
  · rename_i name
    constructor
    · intro h
      split at h
      · cases h
        exact ⟨by assumption, rfl⟩
      · cases h
    · rintro ⟨htag, hmembers⟩
      cases hmembers
      rw [if_pos htag]
  · rename_i hother
    constructor
    · intro h
      cases h
    · rintro ⟨_, rfl⟩
      exact absurd rfl (hother tag)

theorem normal_of_tagged {tag : String} (h : tag ∈ DataType.plainNames) :
    (object [(tag, null)]).normal = text tag := by
  rw [normal, taggedNull?_eq_some_iff.mpr ⟨h, rfl⟩]

theorem normal_of_pointer (payload : Document) :
    (object [(DataType.pointerTag, payload)]).normal =
      object [(DataType.pointerTag, payload.normal)] := by
  have hnone : taggedNull? [(DataType.pointerTag, payload)] = none := by
    cases htag : taggedNull? [(DataType.pointerTag, payload)] with
    | none => rfl
    | some tag =>
        rcases taggedNull?_eq_some_iff.mp htag with ⟨hplain, hmembers⟩
        cases hmembers
        exact absurd hplain (by decide)
  rw [normal, hnone, normalMembers, normalMembers]

/-- A tree with a tag as its normal form is the tag, or the tag with `null`. -/
theorem eq_of_normal_eq_text {document : Document} {tag : String} (h : document.normal = text tag) :
    document = text tag ∨ tag ∈ DataType.plainNames ∧ document = object [(tag, null)] := by
  cases document with
  | text value =>
      rw [normal] at h
      exact .inl h
  | object members =>
      rw [normal] at h
      split at h
      · rename_i found hfound
        cases h
        rcases taggedNull?_eq_some_iff.mp hfound with ⟨hplain, hmembers⟩
        rw [hmembers]
        exact .inr ⟨hplain, rfl⟩
      · cases h
  | _ =>
      rw [normal] at h
      cases h

theorem eq_of_normal_eq_object {document base : Document} {tag : String}
    (h : document.normal = object [(tag, base)]) :
    exists payload, document = object [(tag, payload)] ∧ payload.normal = base := by
  cases document with
  | object members =>
      rw [normal] at h
      split at h
      · cases h
      · match members with
        | [] => cases h
        | [(name, payload)] =>
            simp only [normalMembers, object.injEq, List.cons.injEq, Prod.mk.injEq, and_true] at h
            rcases h with ⟨rfl, rfl⟩
            exact ⟨payload, rfl, rfl⟩
        | _ :: _ :: _ =>
            simp [normalMembers] at h
  | _ =>
      rw [normal] at h
      cases h

end Document

namespace DataType

/-! ## Reading -/

theorem ofTag?_eq_some_iff {tag : String} {type : DataType} :
    ofTag? tag = some type ↔ type.encode = .text tag := by
  constructor
  · intro h
    have hentries : forall entry, entry ∈ plainTags -> entry.2.encode = .text entry.1 := by
      simp [plainTags, encode]
    rcases List.lookup_eq_some_iff.mp h with ⟨before, after, hsplit, _⟩
    exact hentries (tag, type) (by simp [hsplit])
  · intro h
    cases type with
    | pointerTo base => cases h
    | _ =>
        cases h
        rfl

theorem mem_plainNames_iff {tag : String} :
    tag ∈ plainNames ↔ exists type, ofTag? tag = some type := by
  constructor
  · intro h
    simp only [plainNames, plainTags, List.map_cons, List.map_nil, List.mem_cons,
      List.not_mem_nil, or_false] at h
    rcases h with rfl | rfl | rfl | rfl | rfl
    all_goals exact ⟨_, rfl⟩
  · rintro ⟨type, htype⟩
    rcases List.lookup_eq_some_iff.mp htype with ⟨before, after, hsplit, _⟩
    rw [plainNames, hsplit]
    simp

theorem decode?_member (tag : String) (payload : Document) :
    decode? (.object [(tag, payload)]) = ofTagged? tag payload (decode? payload) := rfl

/-- What reads as a type is one of its forms. -/
theorem forms_of_decode? {document : Document} {type : DataType}
    (h : decode? document = some type) :
    (exists tag, ofTag? tag = some type ∧
      (document = .text tag ∨ document = .object [(tag, .null)])) ∨
      exists payload base, decode? payload = some base ∧
        document = .object [(pointerTag, payload)] ∧ type = pointerTo base := by
  match document with
  | .text tag => exact .inl ⟨tag, h, .inl rfl⟩
  | .object [(tag, payload)] =>
      rw [decode?_member] at h
      unfold ofTagged? at h
      split at h
      · rename_i hpointer
        rcases Option.map_eq_some_iff.mp h with ⟨base, hbase, rfl⟩
        subst hpointer
        exact .inr ⟨payload, base, hbase, rfl, rfl⟩
      · split at h
        · exact .inl ⟨tag, h, .inr rfl⟩
        · cases h
  | .object [] => cases h
  | .object (_ :: _ :: _) => simp [decode?] at h
  | .null => cases h
  | .bool _ => cases h
  | .number _ _ => cases h
  | .array _ => cases h

theorem decode?_tagged {tag : String} (h : tag ∈ plainNames) :
    decode? (.object [(tag, .null)]) = ofTag? tag := by
  have hne : tag ≠ pointerTag := by
    intro heq
    rw [heq] at h
    exact absurd h (by decide)
  rw [decode?_member, ofTagged?, if_neg hne]

theorem decode?_pointer (payload : Document) :
    decode? (.object [(pointerTag, payload)]) = (decode? payload).map pointerTo := by
  rw [decode?_member]
  unfold ofTagged?
  rw [if_pos rfl]

/-- A tree reads as a type exactly if its normal form is what the type is written as. -/
theorem decode?_eq_some_iff_normal (document : Document) (type : DataType) :
    decode? document = some type ↔ document.normal = type.encode := by
  constructor
  · intro h
    induction type generalizing document with
    | pointerTo base ih =>
        rcases forms_of_decode? h with ⟨tag, htag, _⟩ | ⟨payload, _, hbase, rfl, hsame⟩
        · cases ofTag?_eq_some_iff.mp htag
        · cases hsame
          rw [Document.normal_of_pointer, ih payload hbase, encode]
    | _ =>
        rcases forms_of_decode? h with ⟨tag, htag, rfl | rfl⟩ | ⟨_, _, _, _, hsame⟩
        · exact (ofTag?_eq_some_iff.mp htag).symm
        · rw [Document.normal_of_tagged (mem_plainNames_iff.mpr ⟨_, htag⟩)]
          exact (ofTag?_eq_some_iff.mp htag).symm
        · cases hsame
  · intro h
    induction type generalizing document with
    | pointerTo base ih =>
        rcases Document.eq_of_normal_eq_object h with ⟨payload, rfl, hpayload⟩
        rw [decode?_pointer, ih payload hpayload, Option.map_some]
    | _ =>
        rcases Document.eq_of_normal_eq_text h with rfl | ⟨hplain, rfl⟩
        · rfl
        · rw [decode?_tagged hplain]
          rfl

theorem isSome_decode?_iff (document : Document) :
    (decode? document).isSome = true ↔ document.Serialized := by
  constructor
  · intro h
    rcases Option.isSome_iff_exists.mp h with ⟨type, htype⟩
    clear h
    induction type generalizing document with
    | pointerTo base ih =>
        rcases forms_of_decode? htype with ⟨tag, htag, _⟩ | ⟨payload, _, hbase, rfl, hsame⟩
        · cases ofTag?_eq_some_iff.mp htag
        · cases hsame
          exact .pointer (ih payload hbase)
    | _ =>
        rcases forms_of_decode? htype with ⟨tag, htag, rfl | rfl⟩ | ⟨_, _, _, _, hsame⟩
        · exact .plain (mem_plainNames_iff.mpr ⟨_, htag⟩)
        · exact .tagged (mem_plainNames_iff.mpr ⟨_, htag⟩)
        · cases hsame
  · intro h
    induction h with
    | plain h =>
        rcases mem_plainNames_iff.mp h with ⟨type, htype⟩
        rw [decode?, htype]
        rfl
    | tagged h =>
        rcases mem_plainNames_iff.mp h with ⟨type, htype⟩
        rw [decode?_tagged h, htype]
        rfl
    | pointer _ ih =>
        rw [decode?_pointer, Option.isSome_map]
        exact ih

/-! ## Writing again -/

/-- What is written for the type that a tree reads as. -/
def rewritten? (document : Document) : Option Document :=
  (decode? document).map encode

theorem rewritten?_eq_some {document again : Document} (h : rewritten? document = some again) :
    again = document.normal := by
  rcases Option.map_eq_some_iff.mp h with ⟨type, htype, rfl⟩
  exact ((decode?_eq_some_iff_normal document type).mp htype).symm

/-- Every type reads back from what it is written as.  Exactly the trees in one of the two forms at
every depth can be read.  Writing again what was read gives the normal form and changes nothing the
second time, and what has the normal form of a tree reads as the same type. -/
theorem written_faithfully :
    (forall type, decode? type.encode = some type) ∧
      (forall document, (decode? document).isSome = true ↔ document.Serialized) ∧
        (forall document again, rewritten? document = some again ->
          again = document.normal ∧ rewritten? again = some again) ∧
          forall document other type, decode? document = some type ->
            (decode? other = some type ↔ other.normal = document.normal) := by
  refine ⟨decode?_encode, isSome_decode?_iff, ?_, ?_⟩
  · intro document again h
    rcases Option.map_eq_some_iff.mp h with ⟨type, htype, rfl⟩
    refine ⟨rewritten?_eq_some h, ?_⟩
    rw [rewritten?, decode?_encode, Option.map_some]
  · intro document other type h
    rw [decode?_eq_some_iff_normal] at h
    rw [decode?_eq_some_iff_normal, h]

/-- A pointer to a pointer whose base is a tag with `null`. -/
theorem written_faithfully_nested :
    let document : Document :=
      .object [(pointerTag, .object [(pointerTag, .object [("Int32", .null)])])]
    let again : Document := .object [(pointerTag, .object [(pointerTag, .text "Int32")])]
    rewritten? document = some again ∧ again = document.normal ∧
      rewritten? again = some again ∧ decode? document = some int32.pointerTo.pointerTo ∧
        (decode? again = some int32.pointerTo.pointerTo ↔ again.normal = document.normal) := by
  intro document again
  rcases written_faithfully with ⟨_, _, hagain, hsame⟩
  have hrewritten : rewritten? document = some again := rfl
  have hread : decode? document = some int32.pointerTo.pointerTo := rfl
  rcases hagain document again hrewritten with ⟨hnormal, hstill⟩
  exact ⟨hrewritten, hnormal, hstill, hread, hsame document again _ hread⟩

end DataType
end Provision
