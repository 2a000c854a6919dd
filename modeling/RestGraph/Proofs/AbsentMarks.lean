import RestGraph.Proofs.Selections
import RestGraph.Proofs.TreeWalks
import RestGraph.Proofs.Trimming
/-!
Marks that no name of an endpoint contains. Every generated name is made of names of the endpoint
and of fixed words, so what is in no name of an endpoint and in no fixed word is in no generated
name. Small letters bring letters in, but no other characters of ASCII.
-/

set_option autoImplicit false

namespace RestGraph

namespace Text

def Lacks (mark : Char) (text : String) : Prop :=
  mark ∉ text.toList

/-- A character of ASCII that is not a letter. -/
def IsMark (c : Char) : Prop :=
  c.toNat < 0x80 ∧ c.isAlpha = false

section Lacks

variable {mark : Char}

instance (text : String) : Decidable (Lacks mark text) :=
  inferInstanceAs (Decidable (mark ∉ text.toList))

instance : Decidable (IsMark mark) :=
  inferInstanceAs (Decidable (_ ∧ _))

@[simp] theorem lacks_append {first second : String} :
    Lacks mark (first ++ second) ↔ Lacks mark first ∧ Lacks mark second := by
  simp [Lacks, String.toList_append]

theorem lacks_join {texts : List String} :
    Lacks mark (String.join texts) ↔ ∀ text ∈ texts, Lacks mark text := by
  simp [Lacks, String.toList_join]

theorem Lacks.mono {signs word : String} (lacks : Lacks mark signs)
    (inside : word.toList ⊆ signs.toList) : Lacks mark word :=
  fun mem => lacks (inside mem)

theorem lacks_intercalate {separator : String} {texts : List String}
    (between : Lacks mark separator) (lacks : ∀ text ∈ texts, Lacks mark text) :
    Lacks mark (separator.intercalate texts) := by
  induction texts with
  | nil => exact List.not_mem_nil
  | cons text texts ih =>
    obtain ⟨here, later⟩ := List.forall_mem_cons.mp lacks
    cases texts with
    | nil => rwa [String.intercalate_singleton]
    | cons next texts =>
      rw [String.intercalate_cons_cons, lacks_append, lacks_append]
      exact ⟨⟨here, between⟩, ih later⟩

end Lacks

/-- A run of the table maps capitals to letters of ASCII or out of ASCII, and to characters that
exist. -/
def CaseRun.IsSound (run : CaseRun) : Prop :=
  (0x80 ≤ run.first + run.shift ∨ 97 ≤ run.first + run.shift ∧ run.last + run.shift ≤ 122) ∧
    (run.last + run.shift < 0xD800 ∨
      0xDFFF < run.first + run.shift ∧ run.last + run.shift < 0x110000)

instance (run : CaseRun) : Decidable run.IsSound :=
  inferInstanceAs (Decidable (_ ∧ _))

theorem isSound_lowerRuns : ∀ run ∈ lowerRuns, run.IsSound := by
  decide +kernel

theorem toNat_ofNat {n : Nat} (valid : n.isValidChar) : (Char.ofNat n).toNat = n := by
  rw [Char.ofNat, dif_pos valid]
  rfl

theorem IsMark.not_small {mark : Char} (isMark : IsMark mark) :
    ¬ (97 ≤ mark.toNat ∧ mark.toNat ≤ 122) := by
  rintro ⟨low, high⟩
  have first : 'a'.val ≤ mark.val := UInt32.le_iff_toNat_le.mpr low
  have last : mark.val ≤ 'z'.val := UInt32.le_iff_toNat_le.mpr high
  have small : mark.isLower = true :=
    Bool.and_eq_true_iff.mpr ⟨decide_eq_true first, decide_eq_true last⟩
  have letter : mark.isAlpha = true :=
    (congrArg (mark.isUpper || ·) small).trans (Bool.or_true _)
  rw [isMark.2] at letter
  cases letter

theorem CaseRun.IsSound.not_isMark {run : CaseRun} (sound : run.IsSound) {c small : Char}
    (found : run.lower? c = some small) : ¬ IsMark small := by
  unfold lower? at found
  split at found
  · rename_i inside
    obtain ⟨above, below, -⟩ := inside
    obtain ⟨range, valid⟩ := sound
    cases found
    have place : (Char.ofNat (c.toNat + run.shift).toNat).toNat = (c.toNat + run.shift).toNat := by
      apply toNat_ofNat
      rw [Nat.isValidChar]
      omega
    intro isMark
    have ascii := isMark.1
    have apart := isMark.not_small
    rw [place] at ascii apart
    omega
  · cases found

theorem eq_of_mem_lowerChar {mark c : Char} (isMark : IsMark mark) (mem : mark ∈ lowerChar c) :
    mark = c := by
  unfold lowerChar at mem
  split at mem
  · obtain rfl := List.mem_singleton.mp mem
    by_cases capital : 65 ≤ c.toNat ∧ c.toNat ≤ 90
    · have apart := isMark.not_small
      rw [toNat_toLower capital.1 capital.2] at apart
      omega
    · exact dif_neg capital
  · split at mem
    · rcases List.mem_cons.mp mem with rfl | accent
      · exact absurd isMark (by decide)
      · obtain rfl := List.mem_singleton.mp accent
        exact absurd isMark (by decide)
    · obtain rfl := List.mem_singleton.mp mem
      cases found : lowerRuns.findSome? (·.lower? c) with
      | none => rfl
      | some small =>
        obtain ⟨run, runMem, lowered⟩ := List.exists_of_findSome?_eq_some found
        rw [found, Option.getD_some] at isMark
        exact absurd isMark ((isSound_lowerRuns run runMem).not_isMark lowered)

theorem mem_of_mem_lowerAfter {mark : Char} (isMark : IsMark mark) {before cs : List Char}
    (mem : mark ∈ lowerAfter before cs) : mark ∈ cs := by
  induction cs generalizing before with
  | nil => exact mem
  | cons c rest ih =>
    rcases List.mem_append.mp mem with small | later
    · split at small
      -- either form of the small sigma is out of ASCII
      · split at small <;>
          · obtain rfl := List.mem_singleton.mp small
            exact absurd isMark (by decide)
      · exact List.mem_cons.mpr (.inl (eq_of_mem_lowerChar isMark small))
    · exact List.mem_cons_of_mem _ (ih later)

theorem Lacks.lower {mark : Char} (isMark : IsMark mark) {text : String}
    (lacks : Lacks mark text) : Lacks mark (lower text) := by
  intro mem
  rw [Text.lower, String.toList_ofList] at mem
  exact lacks (mem_of_mem_lowerAfter isMark mem)

theorem IsMark.lacks_word {mark : Char} (isMark : IsMark mark) {word : String}
    (letters : word.toList.all Char.isAlpha = true) : Lacks mark word := by
  intro mem
  have letter := List.all_eq_true.mp letters mark mem
  rw [isMark.2] at letter
  cases letter

end Text

open Text (Lacks IsMark)

namespace Shape

theorem names_subset_deepNames (shape : Shape) : shape.names ⊆ shape.deepNames := by
  intro name mem
  obtain ⟨field, fieldMem, rfl⟩ := List.mem_map.mp mem
  rw [deepNames_eq_flatMap]
  exact List.mem_flatMap.mpr ⟨field, fieldMem, List.mem_cons_self⟩

variable {shape target : Shape} {way : List (Nat × Step)}

theorem Leads.deepNames_subset (leads : shape.Leads way target) :
    target.deepNames ⊆ shape.deepNames := by
  induction leads with
  | here shape => exact List.Subset.refl _
  | @step shape inner target i step way found _ ih =>
    intro name mem
    have field : step.field inner ∈ shape.toList := List.mem_of_getElem? found
    rw [deepNames_eq_flatMap]
    refine List.mem_flatMap.mpr ⟨_, field, ?_⟩
    cases step <;> exact List.mem_cons_of_mem _ (ih mem)

theorem Leads.name_mem_deepNames (leads : shape.Leads way target) :
    ∀ step ∈ way, step.2.name ∈ shape.deepNames := by
  induction leads with
  | here shape => exact nofun
  | @step shape inner _ i step way found leads ih =>
    have field : step.field inner ∈ shape.toList := List.mem_of_getElem? found
    have first : step.name ∈ shape.deepNames := by
      refine shape.names_subset_deepNames (List.mem_map.mpr ⟨_, field, ?_⟩)
      cases step <;> rfl
    have inside : shape.Leads [(i, step)] inner := .step found (.here inner)
    exact List.forall_mem_cons.mpr
      ⟨first, fun later mem => inside.deepNames_subset (ih later mem)⟩

end Shape

structure Endpoint.Lacks (mark : Char) (endpoint : Endpoint) : Prop where
  name : Text.Lacks mark endpoint.name
  method : Text.Lacks mark endpoint.method
  parameters : ∀ parameter ∈ endpoint.parameters, Text.Lacks mark parameter.name
  fields : ∀ field ∈ endpoint.response.deepNames, Text.Lacks mark field

section Names

variable {mark : Char} (isMark : IsMark mark)
include isMark

theorem Step.lacks_part {step : Step} (lacks : Lacks mark step.name) : Lacks mark step.part := by
  cases step with
  | record name => exact lacks
  | list name => exact Text.lacks_append.mpr ⟨lacks, isMark.lacks_word (by decide)⟩

theorem Site.lacks_typeName {root : String} {site : Site} (atRoot : Lacks mark root)
    (lacks : ∀ name ∈ site.names, Lacks mark name) : Lacks mark (site.typeName root) := by
  refine Text.lacks_append.mpr ⟨atRoot, Text.lacks_join.mpr ?_⟩
  exact List.forall_mem_map.mpr fun step mem =>
    step.lacks_part isMark (lacks step.name (List.mem_map_of_mem mem))

variable {endpoint : Endpoint} (lacks : endpoint.Lacks mark)
include lacks

theorem Endpoint.Lacks.responseType : Text.Lacks mark (Naming.responseType endpoint.name) :=
  Text.lacks_append.mpr ⟨isMark.lacks_word (by decide), lacks.name⟩

omit isMark in
theorem Endpoint.Lacks.names {site : Site} (leads : endpoint.response.Leads site.way site.record) :
    ∀ name ∈ site.names, Text.Lacks mark name := by
  intro name mem
  obtain ⟨step, stepMem, rfl⟩ := List.mem_map.mp mem
  obtain ⟨found, foundMem, rfl⟩ := List.mem_map.mp stepMem
  exact lacks.fields _ (leads.name_mem_deepNames found foundMem)

theorem Endpoint.Lacks.recordPlace {place : RecordPlace}
    (mem : place ∈ endpoint.response.recordPlaces (Naming.responseType endpoint.name)) :
    Text.Lacks mark place.typeName ∧ ∀ name ∈ place.fields.deepNames, Text.Lacks mark name := by
  rw [Shape.recordPlaces_eq_map] at mem
  obtain ⟨site, siteMem, rfl⟩ := List.mem_map.mp mem
  have leads := (Shape.mem_allSites arranges_after).mp siteMem
  exact ⟨site.lacks_typeName isMark (lacks.responseType isMark) (lacks.names leads),
    fun name mem => lacks.fields name (leads.deepNames_subset mem)⟩

theorem Endpoint.Lacks.listPlace {place : ListPlace}
    (mem : place ∈ endpoint.response.listPlaces (Naming.responseType endpoint.name)) :
    Text.Lacks mark place.name ∧ Text.Lacks mark place.typeName ∧
      ∀ name ∈ place.element.deepNames, Text.Lacks mark name := by
  rw [Shape.listPlaces_eq_map_sites] at mem
  obtain ⟨site, siteMem, rfl⟩ := List.mem_map.mp mem
  have leads := (Shape.mem_allSites arranges_ahead).mp (List.mem_of_mem_filter siteMem)
  have names := lacks.names leads
  refine ⟨?_, site.lacks_typeName isMark (lacks.responseType isMark) names,
    fun name mem => lacks.fields name (leads.deepNames_subset mem)⟩
  show Text.Lacks mark (site.names.getLast?.getD "")
  cases last : site.names.getLast? with
  | none => exact List.not_mem_nil
  | some name => exact names name (List.mem_of_getLast? last)

end Names

end RestGraph
