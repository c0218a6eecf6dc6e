import ModuleLint.Parsing
import ModuleLint.Proofs.Discovery
import ModuleLint.Proofs.Schema
import ModuleLint.Proofs.Stems

/-!
# Which discovered files can be parsed

Discovery looks at how a name ends, and parsing at what follows the last dot within it. Under a
configuration that is accepted, the two agree on every name but those that are an extension and
nothing else, such as `.ts`: these end in an extension, but a dot that begins a name begins no
extension. So a discovered file can be parsed just if it can be read and has more to its name.
-/

namespace ModuleLint

open ModuleLint.Text (CharacterNames)

namespace Path

/-- A text is cut at its last dot. -/
theorem cutAtLastDot?_append_cons {after : List Char} (h : '.' ∉ after) (before : List Char) :
    cutAtLastDot? (before ++ '.' :: after) = some (before, after) := by
  have hnone {cs : List Char} (hcs : '.' ∉ cs) : cutAtLastDot? cs = none := by
    cases hcut : cutAtLastDot? cs with
    | none => rfl
    | some cut =>
      obtain ⟨before, after⟩ := cut
      rw [eq_of_cutAtLastDot? hcut] at hcs
      simp at hcs
  induction before with
  | nil => simp [cutAtLastDot?, hnone h]
  | cons c before ih => rw [List.cons_append, cutAtLastDot?, ih]

/-- A name that ends in a dot and further letters has this ending as its extension, unless it is
nothing else. -/
theorem stemAndExtension_of_isSuffix {name ending : String} {letters : List Char}
    (hending : ending.toList = '.' :: letters) (hletters : letters ≠ []) (hdot : '.' ∉ letters)
    (h : ending.toList <:+ name.toList) :
    (stemAndExtension name).2 = if name = ending then "" else ending := by
  obtain ⟨before, hbefore⟩ := h
  have hcut : cutAtLastDot? name.toList = some (before, letters) := by
    rw [← hbefore, hending, cutAtLastDot?_append_cons hdot]
  have hname : name = ending ↔ before = [] := by
    rw [← String.toList_inj, ← hbefore, List.append_left_eq_self]
  have hempty : letters.isEmpty = false := by simpa using hletters
  simp only [stemAndExtension, hcut, hname, hempty, Bool.or_false, List.isEmpty_iff]
  split
  · rfl
  · rw [← hending, String.ofList_toList]

/-- A path made of names is called by the last of them. -/
theorem name_ofNames_concat {dirs : List String} {name : String}
    (h : ∀ n ∈ dirs ++ [name], IsName n) : Path.name (ofNames (dirs ++ [name])) = name := by
  have hname : IsName name := h name (by simp)
  rw [Path.name, segments_ofNames h]
  simp [hname.isRoot_eq_false]

end Path

namespace Config

/-- The extensions that a document asks for are those of known dialects. -/
theorem subset_of_extensionsOf {doc : Document} {extensions : List String}
    (h : extensionsOf doc = .ok extensions) : extensions ⊆ TypeScript.Dialect.extensions := by
  obtain ⟨listed, hlisted, h⟩ := Outcome.bind_eq_ok_iff.mp h
  split at h
  · cases h
  next hfind =>
    obtain rfl := Except.ok.inj h
    split
    · decide
    · intro e he
      simpa using List.find?_eq_none.mp hfind e he

/-- An accepted configuration looks only for files of known dialects. -/
theorem extensions_subset_of_ofData {data : Data} {config : Config} (h : ofData data = .ok config) :
    config.discovery.extensions ⊆ TypeScript.Dialect.extensions := by
  unfold ofData at h
  split at h
  · obtain rfl := Except.ok.inj h
    decide
  · simp only [ofDocument, Outcome.bind_eq_ok_iff, Outcome.pure_eq_ok_iff] at h
    obtain ⟨-, -, -, -, rules, -, file, -, extensions, hextensions, ignore, -, rfl⟩ := h
    exact subset_of_extensionsOf hextensions
  · cases h

end Config

namespace TypeScript.Dialect

/-- The extension of a known dialect is a dot and further letters. -/
theorem exists_letters_of_mem_extensions :
    ∀ e ∈ extensions, ∃ letters, e.toList = '.' :: letters ∧ letters ≠ [] ∧ '.' ∉ letters := by
  simp only [extensions, List.forall_mem_cons]
  exact ⟨⟨_, rfl, by decide, by decide⟩, ⟨_, rfl, by decide, by decide⟩, nofun⟩

/-- No extension of a known dialect ends in another one. -/
theorem eq_of_isSuffix : ∀ e ∈ extensions, ∀ e' ∈ extensions, e.toList <:+ e'.toList → e' = e := by
  decide

end TypeScript.Dialect

namespace Discovery

open ModuleLint.TypeScript (Dialect)

variable {tree : Directory} {root : String} {settings : Settings} {found : List String}
  {path : String}

/-- The name of a discovered file ends in one of the extensions that are looked for. -/
theorem ending_of_mem_discover [CharacterNames] (hwf : (projectAt tree root).WellFormed)
    (h : discover tree root settings = .ok found) (hpath : path ∈ found) :
    ∃ e ∈ settings.extensions, e.toList <:+ (Path.name path).toList := by
  obtain ⟨dirs, name, bytes, hfile, heligible, rfl⟩ := (mem_iff_of_discover hwf h).mp hpath
  rw [Path.name_ofNames_concat (hfile.isName hwf)]
  exact heligible.ending

/-- If all files that are looked for are of known dialects, a discovered file has one of their
extensions, or its name is one of these and it has none. -/
theorem extension_of_mem_discover [CharacterNames]
    (hextensions : settings.extensions ⊆ Dialect.extensions)
    (hwf : (projectAt tree root).WellFormed) (h : discover tree root settings = .ok found)
    (hpath : path ∈ found) :
    Path.name path ∉ settings.extensions ∧ Path.extension path ∈ settings.extensions ∨
      Path.name path ∈ settings.extensions ∧ Path.extension path = "" := by
  obtain ⟨e, he, hending⟩ := ending_of_mem_discover hwf h hpath
  obtain ⟨letters, hletters, hne, hdot⟩ :=
    Dialect.exists_letters_of_mem_extensions e (hextensions he)
  have hextension : Path.extension path = if Path.name path = e then "" else e :=
    Path.stemAndExtension_of_isSuffix hletters hne hdot hending
  by_cases hname : Path.name path = e
  · rw [if_pos hname] at hextension
    exact .inr ⟨hname ▸ he, hextension⟩
  · rw [if_neg hname] at hextension
    refine .inl ⟨fun hmem => hname ?_, hextension ▸ he⟩
    exact Dialect.eq_of_isSuffix e (hextensions he) _ (hextensions hmem) hending

end Discovery

namespace Parsing

open ModuleLint.TypeScript (Dialect)

/-- A file can be parsed just if it can be read and has the extension of a known dialect. -/
theorem exists_ofFile_iff {tree : Directory} {root path : String} :
    (∃ parsed, ofFile tree root path = some parsed) ↔
      (∃ source, tree.text (Path.join root path) = .ok source) ∧
        Path.extension path ∈ Dialect.extensions := by
  rw [ofFile, ← Dialect.isSome_ofExtension?_iff]
  cases tree.text (Path.join root path) with
  | error fault => simp
  | ok source => simp [ofText, Option.isSome_iff_exists]

/-- Under an accepted configuration a discovered file has one of the extensions that are looked for
just if its name is not itself such an extension, and the same holds of the extensions of known
dialects. So it can be parsed just if it can be read and has more to its name. -/
theorem discovered_parses_iff [CharacterNames] (tree : Directory) (root : String) (data : Data)
    (config : Config) (found : List String) (hconfig : Config.ofData data = .ok config)
    (hwf : (Discovery.projectAt tree root).WellFormed)
    (hfound : Discovery.discover tree root config.discovery = .ok found) :
    ∀ path ∈ found,
      ((SourceFile.ofPath path).extension ∈ config.discovery.extensions ↔
        Path.name path ∉ config.discovery.extensions) ∧
      (Path.extension path ∈ Dialect.extensions ↔
        Path.name path ∉ config.discovery.extensions) ∧
      ((∃ parsed, ofFile tree root path = some parsed) ↔
        (∃ source, tree.text (Path.join root path) = .ok source) ∧
          Path.name path ∉ config.discovery.extensions) := by
  intro path hpath
  have hextensions := Config.extensions_subset_of_ofData hconfig
  have hextension : (SourceFile.ofPath path).extension = Path.extension path := by
    rw [SourceFile.extension, SourceFile.ofPath_path]
  rw [exists_ofFile_iff, hextension]
  rcases Discovery.extension_of_mem_discover hextensions hwf hfound hpath with
    ⟨hname, hmem⟩ | ⟨hname, hempty⟩
  · simp [hname, hmem, hextensions hmem]
  · have hnone : "" ∉ Dialect.extensions := by decide
    have hnone' : "" ∉ config.discovery.extensions := fun hmem => hnone (hextensions hmem)
    simp [hname, hempty, hnone, hnone']

/-- A project with two empty source files, of which one is called by an extension alone. -/
def bareProject : Directory :=
  [("src", .directory [("user", .directory [(".ts", .file []), ("user.ts", .file [])])])]

/-- Both files of that project are discovered. -/
theorem exists_discover_bareProject :
    ∃ found, Discovery.discover bareProject "" {} = .ok found ∧ "src/user/.ts" ∈ found ∧
      "src/user/user.ts" ∈ found := by
  have hwf : (Discovery.projectAt bareProject "").WellFormed := by decide +kernel
  have hpatterns : Discovery.patterns bareProject "" {} = [] := by decide +kernel
  obtain ⟨found, hfound⟩ : ∃ found, Discovery.discover bareProject "" {} = .ok found :=
    Discovery.exists_discover_eq_ok (by rw [hpatterns]; decide)
  have hopen : Discovery.Open [] ["src", "user"] := ⟨by decide, by decide, fun _ _ _ => rfl⟩
  have hlisted {name : String} (hname : name = ".ts" ∨ name = "user.ts")
      (hsource : Discovery.isSourceName [".ts"] name = true) :
      Path.ofNames ["src", "user", name] ∈ found := by
    have hfile : (Discovery.projectAt bareProject "").HasFile ["src", "user"] name [] := by
      refine .inside List.mem_cons_self (.inside List.mem_cons_self (.direct ?_))
      simpa using hname
    obtain ⟨hending, htest⟩ := Discovery.isSourceName_eq_true_iff.mp hsource
    refine (Discovery.mem_iff_of_discover hwf hfound).mpr ⟨_, name, [], hfile, ?_, rfl⟩
    rw [hpatterns]
    exact ⟨hopen, hending, htest, rfl⟩
  exact ⟨found, hfound, hlisted (.inl rfl) (by decide), hlisted (.inr rfl) (by decide)⟩

/-- Of the two files only the other one can be parsed. -/
theorem discovered_parses_iff_bare :
    Config.ofData .null = .ok {} ∧ (Discovery.projectAt bareProject "").WellFormed ∧
      ∃ found, Discovery.discover bareProject "" {} = .ok found ∧
        (∃ path ∈ found, path = "src/user/.ts" ∧
          ¬ ∃ parsed, ofFile bareProject "" path = some parsed) ∧
        ∃ path ∈ found, path = "src/user/user.ts" ∧
          ∃ parsed, ofFile bareProject "" path = some parsed := by
  have hwf : (Discovery.projectAt bareProject "").WellFormed := by decide +kernel
  obtain ⟨found, hfound, hbare, hnamed⟩ := exists_discover_bareProject
  have hparses := discovered_parses_iff bareProject "" .null {} found rfl hwf hfound
  have htext : bareProject.text (Path.join "" "src/user/user.ts") = .ok "" := by decide +kernel
  refine ⟨rfl, hwf, found, hfound, ⟨_, hbare, rfl, fun hparsed => ?_⟩, _, hnamed, rfl, ?_⟩
  · exact ((hparses _ hbare).2.2.mp hparsed).2 (by decide)
  · exact (hparses _ hnamed).2.2.mpr ⟨⟨_, htext⟩, by decide⟩

/-- It is not so that each discovered file that can be read can be parsed. -/
theorem not_forall_discovered_parses :
    ¬ ∀ (tree : Directory) (root : String) (data : Data) (config : Config) (found : List String),
      Config.ofData data = .ok config → (Discovery.projectAt tree root).WellFormed →
      Discovery.discover tree root config.discovery = .ok found →
      ∀ path ∈ found, (∃ source, tree.text (Path.join root path) = .ok source) →
        (SourceFile.ofPath path).extension ∈ config.discovery.extensions ∧
        Path.extension path ∈ Dialect.extensions ∧
        ∃ parsed, ofFile tree root path = some parsed := by
  intro hclaim
  have hwf : (Discovery.projectAt bareProject "").WellFormed := by decide +kernel
  obtain ⟨found, hfound, hbare, -⟩ := exists_discover_bareProject
  have htext : bareProject.text (Path.join "" "src/user/.ts") = .ok "" := by decide +kernel
  obtain ⟨-, hextension, -⟩ :=
    hclaim bareProject "" .null {} found rfl hwf hfound _ hbare ⟨_, htext⟩
  exact absurd hextension (by decide)

end Parsing

end ModuleLint
