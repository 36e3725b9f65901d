import BuildScript.Proofs.Stage.Members
import BuildScript.Proofs.Stage.Seen

/-! # Texts in the place of lists

Where a setting is read by its members, one text does not mean the list of it, as it does at the
settings that hold texts. A text of several characters, or of none, is told from the list of it in
every build that reads it: the cache is used for more directories or for none, and more components
are installed or licenses accepted, or none.
-/

namespace BuildScript

open Shell Drafting Capability

namespace Compiler

open Profile

section Contrast

/-! Completed builds with different settings in one place -/

variable {m : MemberSetting} {payload : Payload} (hk : (Setting.mapping payload.config).Keyed)
  {status : Status} {co : Option Entries} {s t : Setting} {x y : Compiled} {p : Profile} {c : Char}

include hk in
theorem held_directories
    (hx : Completed (MemberSetting.placed .directories payload status s) co x) :
    x.build.caches "directories" = .ok s.isSet ∧
      x.build.cacheDirectories = s.optionalMembers.map (·.map (Setting.written .sealed)) := by
  rw [hx.build]
  exact ⟨caches_directories status co hk.distinct s, cacheDirectories_eq status co hk.distinct s⟩

variable (hx : Completed (m.placed payload status s) co x)
  (hy : Completed (m.placed payload status t) co y)
include hx hy

theorem outside_of_placed : x.build.SameOutside y.build := by
  rw [hx.build, hy.build]
  exact ⟨rfl, rfl⟩

variable (px : x.profile = p) (py : y.profile = p)
include hk px py

theorem same_of_placed : ∀ a ∈ p.aspects, a ∉ m.aspects → a.Same x.build y.build := by
  rw [hx.build, hy.build, px, py]
  exact same_elsewhere status co m hk s t

theorem run_eq_of_placed (stage : Stage) (hs : stage ≠ .setup) :
    x.profile.run x.build stage = y.profile.run y.build stage := by
  rw [hx.build, hy.build, px, py]
  exact run_eq_of_ne_setup status co m hk s t hs

end Contrast

section Directories

/-! Directories that are the characters of a text -/

variable {payload : Payload} (hk : (Setting.mapping payload.config).Keyed) {status : Status}
  {co : Option Entries} {x y : Compiled} {p : Profile} (px : x.profile = p) (py : y.profile = p)
include hk px py

theorem cacheSlug_of_placed {s t : Setting}
    (hx : Completed (MemberSetting.placed .directories payload status s) co x)
    (hy : Completed (MemberSetting.placed .directories payload status t) co y) :
    p.cacheSlug x.build = p.cacheSlug y.build :=
  have others : ∀ a ∈ p.slugAspects, a ∉ MemberSetting.directories.aspects := by
    cases p <;> decide
  cacheSlug_eq_of_same fun a ha => same_of_placed hk hx hy px py a
    (p.cacheAspects_subset (List.mem_append_right _ ha)) (others a ha)

/-- Texts differ where one build has more of a character in its fetch, and not less in its push. -/
theorem packagedText_ne_of_use {c : Char} (hn : c ≠ '\n') {s t : Setting}
    (hx : Completed (MemberSetting.placed .directories payload status s) co x)
    (hy : Completed (MemberSetting.placed .directories payload status t) co y)
    (fetch : occurrences c 0 (alone (useDirectoryCache x.build (p.support x.build) .fetch)) <
      occurrences c 0 (alone (useDirectoryCache y.build (p.support y.build) .fetch)))
    (push : Text.occurrences c (Template.hookBody (Script.render (alone (p.onExit x.build)) 1)) ≤
      Text.occurrences c (Template.hookBody (Script.render (alone (p.onExit y.build)) 1))) :
    packagedText x ≠ packagedText y := by
  have others : ∀ a ∈ p.ownAspects .setup, a ∉ MemberSetting.directories.aspects := by
    cases p <;> decide
  have after : p.afterCache x.build = p.afterCache y.build := afterCache_congr fun a ha =>
    same_of_placed hk hx hy px py a (mem_aspects (List.mem_append_right _ ha)) (others a ha)
  obtain ⟨_, sx⟩ := hx.stages .setup
  obtain ⟨_, sy⟩ := hy.stages .setup
  rw [px] at sx
  rw [py] at sy
  refine hx.packagedText_ne_of_setup hy rfl hn (run_eq_of_placed hk hx hy px py) ?_ ?_
  · rw [px, py, (nodes_setup sx).1, (nodes_setup sy).1, after, occurrences_append,
      occurrences_append]
    exact Nat.add_lt_add_right fetch _
  · rw [px, py]
    exact push

theorem packagedText_ne_of_no_directories
    (hx : Completed (MemberSetting.placed .directories payload status (.text "")) co x)
    (hy : Completed (MemberSetting.placed .directories payload status (.list [.text ""])) co y) :
    packagedText x ≠ packagedText y := by
  obtain ⟨cx, -⟩ := held_directories hk hx
  obtain ⟨cy, dy⟩ := held_directories hk hy
  have none (action : CacheAction) :
      alone (useDirectoryCache x.build (p.support x.build) action) = [] :=
    (writes_useDirectoryCache_nil p (.inl cx) action).alone_eq
  obtain ⟨_, sy⟩ := hy.stages .setup
  rw [py] at sy
  obtain ⟨_, fetch⟩ := (nodes_setup sy).2.1
  -- the tool of the cache is named by the other build alone
  refine packagedText_ne_of_use (c := 'c') hk px py (by decide) hx hy ?_ ?_
  · rw [none]
    exact occurrences_useDirectoryCache_pos fetch cy dy (List.cons_ne_nil _ _) 0
  · have exit : alone (p.onExit x.build) = [] := none .push
    rw [exit, Template.occurrences_hookBody (by decide) (by decide) (by decide)]
    exact Nat.zero_le _

theorem packagedText_ne_of_several_directories {s : String} (hl : 1 < (Text.characters s).length)
    (hx : Completed (MemberSetting.placed .directories payload status (.list [.text s])) co x)
    (hy : Completed (MemberSetting.placed .directories payload status (.text s)) co y) :
    packagedText x ≠ packagedText y := by
  have hn : Text.characters s ≠ [] := List.ne_nil_of_length_pos (Nat.zero_lt_of_lt hl)
  have set : (Setting.text s).isSet = true := by
    simpa [Setting.isSet, Scalar.isSet, Text.characters_eq_nil_iff] using hn
  obtain ⟨cx, dx⟩ := held_directories hk hx
  obtain ⟨cy, dy⟩ := held_directories hk hy
  have dx : x.build.cacheDirectories = .ok [s] := dx
  rw [set] at cy
  rw [Setting.optionalMembers, set, if_pos rfl, Setting.members_text] at dy
  have dy : y.build.cacheDirectories = .ok (Text.characters s) :=
    dy.trans (congrArg Except.ok (Setting.written_texts .sealed _))
  have slug := cacheSlug_of_placed hk px py hx hy
  have options := (outside_of_placed hx hy).cacheOptions
  have blanks : ([s].map (Text.occurrences ' ')).sum =
      ((Text.characters s).map (Text.occurrences ' ')).sum := by
    rw [Text.occurrences_characters]
    exact Nat.add_zero _
  obtain ⟨_, sx⟩ := hx.stages .setup
  obtain ⟨_, ex⟩ := hx.exit
  obtain ⟨_, ey⟩ := hy.exit
  rw [px] at sx ex
  rw [py] at ey
  obtain ⟨_, fetch⟩ := (nodes_setup sx).2.1
  -- the characters hold the blanks of the text, and each of them stands behind one more
  have more {action : CacheAction} {js : Journal}
      (h : Writes (useDirectoryCache x.build (p.support x.build) action) ()
        (alone (useDirectoryCache x.build (p.support x.build) action)) js) (level : Int) :=
    occurrences_useDirectoryCache_lt options slug cx cy dx dy (List.cons_ne_nil _ _) hl blanks h
      level
  refine packagedText_ne_of_use (c := ' ') hk px py (by decide) hx hy (more fetch 0) ?_
  rw [Template.occurrences_hookBody_render (by decide) (by decide)
      (occurrences_useDirectoryCache_pos ex cx dx (List.cons_ne_nil _ _) 1),
    Template.occurrences_hookBody_render (by decide) (by decide)
      (occurrences_useDirectoryCache_pos ey cy dy hn 1)]
  exact Nat.le_of_lt (more ex 1)

theorem packagedText_ne_of_directories {s : String} (hl : (Text.characters s).length ≠ 1)
    (hx : Completed (MemberSetting.placed .directories payload status (.list [.text s])) co x)
    (hy : Completed (MemberSetting.placed .directories payload status (.text s)) co y) :
    packagedText x ≠ packagedText y := by
  rcases Nat.lt_or_gt_of_ne hl with less | more
  · have empty := Text.characters_eq_nil_iff.mp (List.length_eq_zero_iff.mp (Nat.lt_one_iff.mp less))
    subst empty
    exact (packagedText_ne_of_no_directories hk py px hy hx).symm
  · exact packagedText_ne_of_several_directories hk px py more hx hy

end Directories

section Android

/-! Components and licenses that are the characters of a text -/

variable {m : MemberSetting} {payload : Payload} (hk : (Setting.mapping payload.config).Keyed)
  {status : Status} {co : Option Entries} {s t : Setting} {text : String} {x y : Compiled} {c : Char}
  (px : x.profile = .android) (py : y.profile = .android)
include hk px py

theorem packagedText_ne_of_components (hm : m ≠ .directories) (hn : c ≠ '\n')
    (hx : Completed (m.placed payload status s) co x)
    (hy : Completed (m.placed payload status t) co y) {us vs : List Setting} {ls ks : List String}
    (ix : Installed x.build us ls) (iy : Installed y.build vs ks)
    (more : occurrences c 0 (componentNodes us ls) < occurrences c 0 (componentNodes vs ks)) :
    packagedText x ≠ packagedText y := by
  have others : ∀ a ∈ Aspect.jdk :: Profile.android.cacheAspects, a ∉ m.aspects := by
    cases m with
    | directories => exact absurd rfl hm
    | components | licenses => decide
  have same : ∀ a ∈ Profile.android.aspects, a ∉ m.aspects → a.Same x.build y.build :=
    same_of_placed hk hx hy px py
  have jdks : jdk x.build = jdk y.build := same .jdk (by decide) (others _ List.mem_cons_self)
  have cached : ∀ a ∈ Profile.android.cacheAspects, a.Same x.build y.build := fun a ha =>
    same a (cacheAspects_subset _ ha) (others a (List.mem_cons_of_mem _ ha))
  have outside := outside_of_placed hx hy
  obtain ⟨version, jx, ax⟩ := ix.nodes
  obtain ⟨version', jy, ay⟩ := iy.nodes
  cases jx.symm.trans (jdks.trans jy)
  obtain ⟨_, sx⟩ := hx.stages .setup
  obtain ⟨_, sy⟩ := hy.stages .setup
  rw [px] at sx
  rw [py] at sy
  refine hx.packagedText_ne_of_setup hy rfl hn (run_eq_of_placed hk hx hy px py) ?_ ?_
  · rw [px, py, (nodes_setup sx).1, (nodes_setup sy).1, ax, ay,
      useDirectoryCache_congr outside cached]
    simp only [occurrences_append]
    omega
  · exact Nat.le_of_eq (by rw [px, py, onExit_congr outside cached])

omit py in
theorem held_list (hm : m ≠ .directories) (hx : Completed (m.placed payload status s) co x) :
    androidList x.build m.name = s.members := by
  rw [hx.build, px]
  cases m with
  | directories => exact absurd rfl hm
  | components | licenses => exact androidList_placed status co _ s hk

theorem packagedText_ne_of_installed (hl : (Text.characters text).length ≠ 1)
    (hx : Completed (MemberSetting.placed .components payload status (.list [.text text])) co x)
    (hy : Completed (MemberSetting.placed .components payload status (.text text)) co y) :
    packagedText x ≠ packagedText y := by
  obtain ⟨us, licenses, ix⟩ := hx.exists_installed px
  obtain ⟨vs, licenses', iy⟩ := hy.exists_installed py
  obtain rfl : us = [.text text] :=
    Except.ok.inj (ix.components.symm.trans (held_list hk px (by decide) hx))
  obtain rfl : vs = (Text.characters text).map .text := Except.ok.inj (iy.components.symm.trans
    ((held_list hk py (by decide) hy).trans (Setting.members_text text)))
  have same (hn : (Text.characters text).map Setting.text ≠ []) : licenses = licenses' := by
    have aspect : androidList x.build "licenses" = androidList y.build "licenses" :=
      same_of_placed hk hx hy px py (.android "licenses") (by decide) (by decide)
    exact Setting.texts_injective (Except.ok.inj
      ((ix.licenses (List.cons_ne_nil _ _)).symm.trans (aspect.trans (iy.licenses hn))))
  have texts : ([Setting.text text].map fun u => Text.occurrences 'k' (u.written .sealed)).sum =
      (((Text.characters text).map Setting.text).map fun u =>
        Text.occurrences 'k' (u.written .sealed)).sum := by
    rw [List.map_map]
    exact (Text.occurrences_characters 'k' text).symm
  rcases Nat.lt_or_gt_of_ne hl with none | several
  · have more := occurrences_componentNodes_lt (by simpa using none) texts.symm licenses' licenses
      (fun hn => (same hn).symm) 0
    exact (packagedText_ne_of_components hk py px (by decide) (by decide) hy hx iy ix more).symm
  · have hn : (Text.characters text).map Setting.text ≠ [] :=
      List.ne_nil_of_length_pos (by simpa using Nat.zero_lt_of_lt several)
    have more := occurrences_componentNodes_lt (by simpa using several) texts licenses licenses'
      (fun _ => same hn) 0
    exact packagedText_ne_of_components hk px py (by decide) (by decide) hx hy ix iy more

theorem packagedText_ne_of_accepted (hl : (Text.characters text).length ≠ 1)
    (hr : (Entries.get (Entries.inner payload.config "android") "components").isSet = true)
    (hx : Completed (MemberSetting.placed .licenses payload status (.list [.text text])) co x)
    (hy : Completed (MemberSetting.placed .licenses payload status (.text text)) co y) :
    packagedText x ≠ packagedText y := by
  obtain ⟨us, licenses, ix⟩ := hx.exists_installed px
  obtain ⟨vs, licenses', iy⟩ := hy.exists_installed py
  have aspect : androidList x.build "components" = androidList y.build "components" :=
    same_of_placed hk hx hy px py (.android "components") (by decide) (by decide)
  obtain rfl : us = vs := Except.ok.inj (ix.components.symm.trans (aspect.trans iy.components))
  have hn : us ≠ [] := by
    have held := ix.components
    rw [hx.build, px] at held
    exact (components_ne_nil_iff status co hk _ held).mpr hr
  obtain rfl : licenses = [text] := Setting.texts_injective (Except.ok.inj
    ((ix.licenses hn).symm.trans (held_list hk px (by decide) hx)))
  obtain rfl : licenses' = Text.characters text := Setting.texts_injective (Except.ok.inj
    ((iy.licenses hn).symm.trans
      ((held_list hk py (by decide) hy).trans (Setting.members_text text))))
  rcases Nat.lt_or_gt_of_ne hl with none | several
  -- without licenses the option that accepts them is missing
  · have accepted := occurrences_acceptance 'l' (List.cons_ne_nil text [])
    have option : Text.occurrences 'l' " --accept-licenses='" = 1 := by decide
    have bar : Text.occurrences 'l' "|" = 0 := by decide
    have empty : Text.characters text = [] := List.length_eq_zero_iff.mp (Nat.lt_one_iff.mp none)
    have less : Text.occurrences 'l' (acceptance (Text.characters text)) <
        Text.occurrences 'l' (acceptance [text]) := by
      rw [empty]
      change 0 < _
      omega
    have more := occurrences_componentNodes_lt_of_licenses (by decide) (by decide) hn less 0
    exact (packagedText_ne_of_components hk py px (by decide) (by decide) hy hx iy ix more).symm
  -- several licenses stand with bars between them
  · have one := occurrences_acceptance '|' (List.cons_ne_nil text [])
    have each := occurrences_acceptance '|'
      (List.ne_nil_of_length_pos (Nat.zero_lt_of_lt several) : Text.characters text ≠ [])
    have bar : Text.occurrences '|' "|" = 1 := by decide
    have less : Text.occurrences '|' (acceptance [text]) <
        Text.occurrences '|' (acceptance (Text.characters text)) := by
      simp only [List.length_singleton, List.map_cons, List.map_nil, List.sum_cons,
        List.sum_nil] at one
      rw [Text.occurrences_characters, bar] at each
      rw [bar] at one
      omega
    have more := occurrences_componentNodes_lt_of_licenses (by decide) (by decide) hn less 0
    exact packagedText_ne_of_components hk px py (by decide) (by decide) hx hy ix iy more

end Android

section Members

variable {payload : Payload} (m : MemberSetting) (status : Status) (co : Option Entries)
  {p : Profile}

theorem get_language_placed (payload : Payload) (s : Setting) :
    Entries.get (m.placed payload status s).payload.config "language" =
      Entries.get payload.config "language" := by
  have other : "language" ≠ m.outer := by cases m <;> decide
  exact payload.get_place other [m.name] s

variable (hk : (Setting.mapping payload.config).Keyed)
include hk

theorem alike_of_not_read
    (hl : Registry.standard.get (Entries.get payload.config "language") = .ok p)
    (hr : ¬m.IsRead p payload.config) (s t : Setting) :
    Alike (build (m.placed payload status s) co) (build (m.placed payload status t) co) := by
  have language := (get_language_placed m status payload s).trans
    (get_language_placed m status payload t).symm
  have selected {q : Profile} (hq : Registry.standard.get
      (Entries.get (m.placed payload status s).payload.config "language") = .ok q) : p = q := by
    rw [get_language_placed] at hq
    exact Except.ok.inj (hl.symm.trans hq)
  by_cases hm : ∀ a ∈ p.aspects, a ∉ m.aspects
  · refine build_congr language rfl rfl fun q hq a ha => ?_
    obtain rfl := selected hq
    exact same_elsewhere status co m hk s t a ha (hm a ha)
  · obtain ⟨a, ha, hm⟩ : ∃ a ∈ p.aspects, a ∈ m.aspects := by simpa using hm
    obtain ⟨rfl, rfl, hc⟩ : p = .android ∧ m = .licenses ∧
        ¬(Entries.get (Entries.inner payload.config "android") "components").isSet = true := by
      have android (hk : a.key = "android") : p = .android := (eq_of_android_key a ha hk).1
      cases m with
      | directories => exact absurd trivial hr
      | components =>
        obtain rfl := List.mem_singleton.mp hm
        exact absurd (android rfl) hr
      | licenses =>
        obtain rfl := List.mem_singleton.mp hm
        exact ⟨android rfl, rfl, fun hs => hr ⟨android rfl, hs⟩⟩
    have same := same_elsewhere (p := .android) status co .licenses hk s t
    have others : ∀ a ∈ Profile.android.cacheAspects, a ∉ MemberSetting.licenses.aspects := by
      decide
    have cached := fun a ha => same a (cacheAspects_subset _ ha) (others a ha)
    have outside : (buildFor .android (MemberSetting.placed .licenses payload status s) co).SameOutside
        (buildFor .android (MemberSetting.placed .licenses payload status t) co) := ⟨rfl, rfl⟩
    have stages := run_congr_of_no_components outside same fun components held =>
      Decidable.of_not_not fun hn => hc ((components_ne_nil_iff status co hk s held).mp hn)
    refine build_congr_of_composed language rfl fun q hq => ?_
    obtain rfl := selected hq
    refine ⟨?_, cacheSlug_eq_of_same fun a ha => cached a (List.mem_append_right _ ha)⟩
    rw [composed, composed, compose_congr stages (onExit_congr outside cached)]
    rfl

/-- A text has the compiled text of the list of it just if the status stops the build, if it is one
character, or if it is not read. -/
theorem compile_text_iff (hl : Registry.standard.get (Entries.get payload.config "language") = .ok p)
    {options : Options} {s text : String}
    (ht : (compile (m.placed payload status (.list [.text s])) options co Template.packaged).1 =
      .ok text) :
    (compile (m.placed payload status (.text s)) options co Template.packaged).1 = .ok text ↔
      status = .serverError ∨ (Text.characters s).length = 1 ∨ ¬m.IsRead p payload.config := by
  have lx := (congrArg Registry.standard.get
    (get_language_placed m status payload (.list [.text s]))).trans hl
  have ly := (congrArg Registry.standard.get
    (get_language_placed m status payload (.text s))).trans hl
  constructor
  · intro hy
    refine Decidable.or_iff_not_imp_left.mpr fun hs => Decidable.or_iff_not_imp_left.mpr fun hn hr => ?_
    obtain ⟨x, hx, px, tx⟩ := exists_completed_of_compile lx hs ht
    obtain ⟨y, hy, py, ty⟩ := exists_completed_of_compile ly hs hy
    refine absurd (tx.trans ty.symm) ?_
    cases m with
    | directories => exact packagedText_ne_of_directories hk px py hn hx hy
    | components =>
      obtain rfl : p = .android := hr
      exact packagedText_ne_of_installed hk px py hn hx hy
    | licenses =>
      obtain ⟨rfl, hr⟩ := hr
      exact packagedText_ne_of_accepted hk px py hn hr hx hy
  · rintro (hs | hn | hr)
    · rw [← ht]
      exact compile_eq_of_stopped ly lx hs hs options Template.packaged
    · have language := (get_language_placed m status payload (.text s)).trans
        (get_language_placed m status payload (.list [.text s])).symm
      have same := same_characters (p := p) status co m hk s
      rw [Text.characters_of_length hn] at same
      rw [← ht]
      refine congrArg Prod.fst (compile_congr (build_congr language rfl rfl fun q hq => ?_) _ _)
      cases ly.symm.trans hq
      exact same
    · rw [← ht]
      exact congrArg Prod.fst (compile_congr (alike_of_not_read m status co hk hl hr _ _) _ _)

omit status in
/-- The cached directories, the components and the licenses are read from a text by its characters.
A spec that has a text with the list of one text has the same with the text itself just if its status
stops the build, if the text is one character, or if the setting is not read. -/
theorem texts_are_read_by_characters (s : String) :
    (Alike (buildPayload (payload.place m.path (.text s)) co)
        (buildPayload (payload.place m.path (.list ((Text.characters s).map .text))) co) ∧
      ∀ options templates, compilePayload (payload.place m.path (.text s)) options co templates =
        compilePayload (payload.place m.path (.list ((Text.characters s).map .text))) options co
          templates) ∧
    ∀ p, Registry.standard.get (Entries.get payload.config "language") = .ok p →
      ∀ options text,
        (compilePayload (payload.place m.path (.list [.text s])) options co Template.packaged).1 =
          .ok text →
        ((compilePayload (payload.place m.path (.text s)) options co Template.packaged).1 = .ok text ↔
          (Status.ofConfig payload.config).1 = .serverError ∨ (Text.characters s).length = 1 ∨
            ¬m.IsRead p payload.config) := by
  have result : resultKey ≠ m.outer := by cases m <;> decide
  have status (t : Setting) : Status.ofConfig (payload.place m.path t).config =
      Status.ofConfig payload.config := payload.ofConfig_place result [m.name] t
  constructor
  · refine payload_congr ((status _).trans (status _).symm) fun status => build_congr
      ((get_language_placed m status payload _).trans (get_language_placed m status payload _).symm)
      rfl rfl fun p _ => same_characters status co m hk s
  · intro p hl options text ht
    rw [compilePayload_fst_of_status (congrArg Prod.fst (status _))] at ht ⊢
    exact compile_text_iff m _ co hk hl ht

end Members

def vendorSpec : Payload where
  config := .ofList [
    (.text "language", .text "generic"),
    (.text "cache", .mapping [(.text "directories", .text "vendor")])]

theorem keyed_vendorSpec : (Setting.mapping vendorSpec.config).Keyed := by
  have cache : (Setting.mapping [(.text "directories", .text "vendor")]).Keyed :=
    .single _ (.scalar _)
  exact Setting.keyed_ofList (List.forall_mem_cons.mpr
    ⟨.scalar _, List.forall_mem_singleton.mpr cache⟩)

theorem exists_text_of_listed_directory : ∃ text, ∀ options : Options, options.logTree = false →
    (compilePayload (vendorSpec.place ["cache", "directories"] (.list [.text "vendor"])) options none
      Template.packaged).1 = .ok text := by
  have selected : Registry.standard.get (Entries.get (vendorSpec.place ["cache", "directories"]
      (.list [.text "vendor"])).config "language") = .ok .generic := rfl
  have usable : Profile.generic.Usable (Resolution.ofPayload
      (vendorSpec.place ["cache", "directories"] (.list [.text "vendor"]))).1 := by
    decide +kernel
  exact exists_text_of_usable selected usable none

theorem texts_are_read_by_characters_vendor :
    (Setting.mapping vendorSpec.config).Keyed ∧ ∃ text, ∀ options : Options, options.logTree = false →
      (compilePayload (vendorSpec.place ["cache", "directories"] (.list [.text "vendor"])) options
        none Template.packaged).1 = .ok text ∧
      (compilePayload vendorSpec options none Template.packaged).1 ≠ .ok text ∧
      compilePayload vendorSpec options none Template.packaged =
        compilePayload (vendorSpec.place ["cache", "directories"]
          (.list [.text "v", .text "e", .text "n", .text "d", .text "o", .text "r"])) options none
          Template.packaged := by
  obtain ⟨text, ht⟩ := exists_text_of_listed_directory
  have law := texts_are_read_by_characters .directories none keyed_vendorSpec "vendor"
  have here : vendorSpec.place MemberSetting.directories.path (.text "vendor") = vendorSpec :=
    vendorSpec.place_self rfl
  rw [here] at law
  refine ⟨keyed_vendorSpec, text, fun options quiet =>
    ⟨ht options quiet, fun he => ?_, law.1.2 _ _⟩⟩
  rcases (law.2 .generic rfl options text (ht options quiet)).mp he with stopped | one | unread
  · cases stopped
  · cases one
  · exact unread trivial

/-- A directory that is named by a text is not cached as one directory. -/
theorem vendor_directory_not_listed : ∃ text,
    (compilePayload (vendorSpec.place ["cache", "directories"] (.list [.text "vendor"])) ⟨none, false⟩
        none Template.packaged).1 = .ok text ∧
      (compilePayload vendorSpec ⟨none, false⟩ none Template.packaged).1 ≠ .ok text := by
  obtain ⟨text, ht⟩ := exists_text_of_listed_directory
  refine ⟨text, ht _ rfl, fun he => ?_⟩
  have here : vendorSpec.place ["cache", "directories"] (.text "vendor") = vendorSpec :=
    vendorSpec.place_self rfl
  have compiled := ht ⟨none, false⟩ rfl
  rw [← here] at he
  rw [compilePayload_fst_of_status rfl] at compiled he
  have selected : Registry.standard.get (Entries.get vendorSpec.config "language") =
      .ok .generic := rfl
  rcases (compile_text_iff .directories .configured none keyed_vendorSpec selected compiled).mp he with
    stopped | one | unread
  · cases stopped
  · cases one
  · exact unread trivial

end Compiler

end BuildScript
