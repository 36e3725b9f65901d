import BuildScript.Pipeline
import BuildScript.Proofs.Draft.Steady

/-! # Readable builds

Which reads a build has to allow so that its stages fail at worst with given faults. Every build can
be read in this way if all misuses are admitted, and one that can be read without a fault is read to
the end.
-/

namespace BuildScript

open Drafting Capability

variable {F : Draft.Fault → Prop}

def textKeys : List String :=
  ["services", "after_success", "after_failure"] ++
    (Stage.all.filter fun stage => stage.kind = .custom).map Stage.name

theorem Stage.name_mem_textKeys {stage : Stage} (h : stage.kind = .custom) :
    stage.name ∈ textKeys := by
  refine List.mem_append_right _ (List.mem_map_of_mem (List.mem_filter.mpr ⟨stage.mem_all, ?_⟩))
  exact decide_eq_true h

namespace Build

def entriesOf (b : Build) (name : String) : Except Setting.Misuse Entries := do
  let s ← b.setting name
  if s.isSet then s.entries else .ok []

theorem entriesOf_eq {b : Build} {name : String} {s : Setting} (h : b.setting name = .ok s) :
    b.entriesOf name = if s.isSet then s.entries else .ok [] := by
  rw [entriesOf, h]
  rfl

/-- What every profile reads of a build it reads with the faults `F` at worst. -/
class Readable (F : Draft.Fault → Prop) (b : Build) : Prop where
  setting (name : String) : Admits F (b.setting name)
  texts {name : String} (h : name ∈ textKeys) : Admits F (b.textsOf name)
  caches (kind : String) : Admits F (b.caches kind)
  directories : Admits F b.cacheDirectories
  git (hs : (Entries.get b.payload.repository "slug").isSet = true) : Admits F (b.entriesOf "git")
  addons (hp : b.payload.paranoid = false) : Admits F (b.entriesOf "addons")
  addon (hp : b.payload.paranoid = false) {es : Entries} (h : b.entriesOf "addons" = .ok es)
    {e : Scalar × Setting} (he : e ∈ es) {a : Addon} (hn : e.1 = .text a.name) :
    Admits F (e.2.optionalTexts .sealed)

attribute [instance] Readable.setting Readable.caches Readable.directories

instance [Lenient F] (b : Build) : b.Readable F where
  setting _ := inferInstance
  texts _ := inferInstance
  caches _ := inferInstance
  directories := inferInstance
  git _ := inferInstance
  addons _ := inferInstance
  addon _ _ _ _ _ _ := inferInstance

end Build

namespace Profile

/-- What is read of the Android settings is read with the faults `F` at worst. The licenses are read
for each of the components. -/
class AndroidReadable (F : Draft.Fault → Prop) (b : Build) : Prop where
  components : Admits F (androidList b "components")
  licenses {components : List Setting} (hc : androidList b "components" = .ok components)
    (hn : components ≠ []) : Admits F (androidList b "licenses")
  command {components licenses : List Setting} (hc : androidList b "components" = .ok components)
    {component : Setting} (hm : component ∈ components)
    (hl : androidList b "licenses" = .ok licenses) : Admits F (componentCommand component licenses)

attribute [instance] AndroidReadable.components

instance [Lenient F] (b : Build) : AndroidReadable F b :=
  ⟨inferInstance, fun _ _ => inferInstance, fun _ _ _ _ => inferInstance⟩

/-- What a profile reads for its own toolchain it reads with the faults `F` at worst. -/
def OwnReadable (F : Draft.Fault → Prop) (b : Build) : Profile → Prop
  | .c | .cpp => Admits F (compiler b)
  | .android => AndroidReadable F b
  | .base | .generic | .haskell | .java => True

/-- Everything that a profile reads of a build it reads with the faults `F` at worst. -/
class Readable (F : Draft.Fault → Prop) (p : Profile) (b : Build) : Prop where
  shared : b.Readable F
  own : p.OwnReadable F b

instance [Lenient F] (p : Profile) (b : Build) : p.Readable F b where
  shared := inferInstance
  own := by
    cases p with
    | c | cpp => exact inferInstanceAs (Admits F (compiler b))
    | android => exact inferInstanceAs (AndroidReadable F b)
    | base | generic | haskell | java => trivial

section Own

variable {b : Build} [b.Readable F]

instance : Admits F (ghc b) := .bind inferInstance fun _ => .ok _

instance : Admits F (jdk b) := .bind (Build.Readable.setting "jdk") fun _ => .ok _

instance : Admits F (Environment.groups b) := .bind inferInstance fun _ => .ok _

end Own

theorem admits_cacheSlug (p : Profile) (b : Build) [h : p.Readable F b] :
    Admits F (p.cacheSlug b) := by
  have := h.shared
  cases p with
  | base | generic => exact .ok _
  | c | cpp => exact .bind h.own fun _ => .ok _
  | haskell =>
    refine .bind (inferInstanceAs (Admits F (ghc b))) fun version => ?_
    cases version with
    | none => exact .ok _
    | some v => exact .ok _
  | android | java => exact .bind (inferInstanceAs (Admits F (jdk b))) fun _ => .ok _

end Profile

end BuildScript
