import ModuleLint.Proofs.Exclusion
import ModuleLint.Proofs.GlobLanguage
import ModuleLint.Proofs.Marks

/-!
# Leaving out a subtree

A final `/**` is dropped from a line, so that the pattern leaves out the directory itself and not
only what lies in it. A walk does not enter a directory that is left out, and so a later line that
takes a single file in it in again is of no use: nothing in the directory is found.
-/

namespace ModuleLint

open ModuleLint.Text (CharacterNames)

namespace Ignore

open ModuleLint.Path (IsName ofNames)

/-- No character is a wild card, opens a class or takes the meaning from the next one. -/
def HasNoWildcard (cs : List Char) : Prop :=
  ∀ c ∈ cs, c ≠ '*' ∧ c ≠ '?' ∧ c ≠ '[' ∧ c ≠ '\\'

instance (cs : List Char) : Decidable (HasNoWildcard cs) :=
  List.decidableBAll (fun c => c ≠ '*' ∧ c ≠ '?' ∧ c ≠ '[' ∧ c ≠ '\\') cs

/-- A path stands for itself on a line: it has no wild card, and its ends are plain. -/
structure IsLiteral (path : String) : Prop extends HasPlainEnds path.toList where
  no_wildcard : HasNoWildcard path.toList

section Literals

variable {cs text : List Char}

/-- Without wild cards the units of a glob are its characters. -/
theorem globTokensFrom_of_no_wildcard (h : HasNoWildcard cs) :
    globTokensFrom 0 cs = cs.map .literal := by
  induction cs with
  | nil => rfl
  | cons c cs ih =>
    obtain ⟨hstar, hquestion, hbracket, hbackslash⟩ := h c List.mem_cons_self
    rw [globTokensFrom, ih fun d hd => h d (List.mem_cons_of_mem c hd), List.map_cons]
    all_goals assumption

/-- Characters match nothing else than the text made of them. -/
theorem fullMatch_map_char :
    (ofPieces (cs.map fun c => .one (.char c))).fullMatch text = true ↔ text = cs := by
  induction cs generalizing text with
  | nil => exact fullMatch_nil_iff
  | cons c cs ih =>
    rw [List.map_cons, fullMatch_one_iff]
    simp only [ih]
    constructor
    · rintro ⟨d, rest, rfl, hd, rfl⟩
      obtain rfl : d = c := by simpa using hd
      rfl
    · rintro rfl
      exact ⟨c, cs, rfl, by simp, rfl⟩

/-- A path without wild cards is read as the characters it is made of. -/
theorem compile_of_no_wildcard [CharacterNames] {path : String} (h : HasNoWildcard path.toList) :
    compile path = .ok (ofPieces (path.toList.map fun c => .one (.char c))) := by
  have htokens : globTokens path.toList = path.toList.map .literal :=
    globTokensFrom_of_no_wildcard h
  have hplain : ∀ t ∈ globTokens path.toList, t.isPlain = true := by
    rw [htokens]
    simp [GlobToken.isPlain]
  rw [compile_eq_ok hplain, htokens, List.map_map]
  rfl

end Literals

section Patterns

variable {way dirs names : List String} {name : String} {negated isDirectory : Bool}

/-- A path without wild cards goes through directories without wild cards. -/
theorem HasNoWildcard.of_concat (h : HasNoWildcard (ofNames (dirs ++ [name])).toList)
    (hne : dirs ≠ []) : HasNoWildcard (ofNames dirs).toList := by
  rw [Path.toList_ofNames_concat hne] at h
  exact fun c hc => h c (List.mem_append_left _ hc)

/-- The pattern that is tied to the root and whose glob is the path made of names. -/
def Pattern.ofPath (negated : Bool) (names : List String) : Pattern :=
  ⟨ofNames names, negated, true, false⟩

/-- Two patterns, of which the second takes paths in again, leave out what the first matches and
the second does not. -/
theorem lastExcludes_pair {test : Pattern → Bool} {p q : Pattern} (hp : p.negated = false)
    (hq : q.negated = true) : lastExcludes test [p, q] = (test p && !test q) := by
  cases htp : test p <;> cases htq : test q <;> simp [lastExcludes, htp, htq, hp, hq]

variable [CharacterNames]

/-- Without wild cards such a pattern matches the path that it is made of, and no other. -/
theorem Pattern.matchesPath_ofPath (hplain : HasNoWildcard (ofNames way).toList) (hne : way ≠ [])
    (hway : ∀ n ∈ way, IsName n) (hnames : ∀ n ∈ names, IsName n) :
    (ofPath negated way).matchesPath names isDirectory = true ↔ names = way := by
  rcases List.eq_nil_or_concat' names with rfl | ⟨dirs, name, rfl⟩
  · simp [hne.symm]
  · rw [matchesPath_concat (p := ofPath negated way) (compile_of_no_wildcard hplain)]
    simp only [ofPath, Bool.not_false, Bool.or_true, Bool.true_and, if_true, fullMatch_map_char,
      String.toList_inj]
    exact ⟨Path.ofNames_inj hnames hway, congrArg ofNames⟩

/-- It matches along the ways that go through that path. -/
theorem Pattern.matchesWithin_ofPath (hplain : HasNoWildcard (ofNames way).toList) (hne : way ≠ [])
    (hway : ∀ n ∈ way, IsName n) (hnames : ∀ n ∈ names, IsName n) :
    (ofPath negated way).matchesWithin names isDirectory = true ↔ way <+: names := by
  rcases List.eq_nil_or_concat' names with rfl | ⟨dirs, name, rfl⟩
  · simp [matchesWithin, hne]
  · have hdirs (beginning : List String) (hbeginning : beginning <+: dirs) :
        (ofPath negated way).matchesPath beginning true = true ↔ beginning = way :=
      matchesPath_ofPath hplain hne hway fun n hn =>
        hnames n (List.mem_append_left _ (hbeginning.subset hn))
    rw [matchesWithin_concat, matchesPath_ofPath hplain hne hway hnames, List.prefix_concat_iff,
      eq_comm]
    refine or_congr_right ?_
    constructor
    · rintro ⟨beginning, hbeginning, hmatch⟩
      exact (hdirs beginning hbeginning).mp hmatch ▸ hbeginning
    · exact fun hprefix => ⟨way, hprefix, (hdirs way hprefix).mpr rfl⟩

/-- The patterns that leave out a directory and then take in again a file in it. -/
def subtreePatterns (dirs : List String) (name : String) : List Pattern :=
  [.ofPath false dirs, .ofPath true (dirs ++ [name])]

/-- They leave out the directory and all that lies in it, but for the file. -/
theorem excludes_subtreePatterns (hplain : HasNoWildcard (ofNames (dirs ++ [name])).toList)
    (hne : dirs ≠ []) (hway : ∀ n ∈ dirs ++ [name], IsName n) (hnames : ∀ n ∈ names, IsName n) :
    excludes (subtreePatterns dirs name) names isDirectory = true ↔
      dirs <+: names ∧ ¬ dirs ++ [name] <+: names := by
  have hdirs : ∀ n ∈ dirs, IsName n := fun n hn => hway n (List.mem_append_left _ hn)
  rw [excludes, subtreePatterns, lastExcludes_pair rfl rfl, Bool.and_eq_true,
    Pattern.matchesWithin_ofPath (hplain.of_concat hne) hne hdirs hnames, Bool.not_eq_true',
    ← Bool.not_eq_true, Pattern.matchesWithin_ofPath hplain (by simp) hway hnames]

/-- They can be read. -/
theorem readable_subtreePatterns (hplain : HasNoWildcard (ofNames (dirs ++ [name])).toList)
    (hne : dirs ≠ []) : Readable (subtreePatterns dirs name) := by
  refine List.forall_mem_cons.mpr ⟨?_, List.forall_mem_singleton.mpr ?_⟩
  · exact ⟨_, compile_of_no_wildcard (hplain.of_concat hne)⟩
  · exact ⟨_, compile_of_no_wildcard hplain⟩

end Patterns

section Lines

variable {dirs : List String} {name : String}

/-- What follows a path changes nothing about how it begins. -/
theorem head?_ofNames_append (hne : dirs ≠ []) (hdirs : ∀ n ∈ dirs, IsName n) (rest : List Char) :
    ((ofNames dirs).toList ++ rest).head? = (ofNames dirs).toList.head? := by
  refine List.head?_append_of_ne_nil _ fun hnil => hne ?_
  exact (Path.ofNames_eq_empty_iff hdirs).mp (String.toList_eq_nil_iff.mp hnil)

/-- The line for what lies in a directory is read as the pattern for the directory itself, since the
final `/**` is dropped. -/
theorem patternOfLine?_subtree (h : IsLiteral (ofNames (dirs ++ [name]))) (hne : dirs ≠ [])
    (hway : ∀ n ∈ dirs ++ [name], IsName n) :
    patternOfLine? (ofNames dirs ++ "/**") = some (.ofPath false dirs) := by
  have hdirs : ∀ n ∈ dirs, IsName n := fun n hn => hway n (List.mem_append_left _ hn)
  have hline : (ofNames dirs ++ "/**").toList = (ofNames dirs).toList ++ ['/', '*', '*'] := by simp
  have hhead : (ofNames dirs ++ "/**").toList.head? =
      (ofNames (dirs ++ [name])).toList.head? := by
    rw [hline, Path.toList_ofNames_concat hne, head?_ofNames_append hne hdirs,
      head?_ofNames_append hne hdirs]
  have hends : HasPlainEnds (ofNames dirs ++ "/**").toList := by
    refine ⟨hhead ▸ h.first, fun c hc => ?_⟩
    obtain rfl : '*' = c := by simpa [hline] using hc
    decide
  have hfits : FitsLine (ofNames dirs ++ "/**").toList :=
    ⟨hends, by simp [hline], hhead ▸ Path.head?_ofNames_ne hway, by simp [hline]⟩
  have hend : dropSubtreeEnd (ofNames dirs ++ "/**").toList = (ofNames dirs).toList := by
    rw [hline, dropSubtreeEnd, if_pos (List.isSuffixOf_iff_suffix.mpr (List.suffix_append _ _))]
    simp
  have hslash : (ofNames dirs ++ "/**").toList.contains '/' = true := by simp [hline]
  have hpattern := patternOfLine?_markedLine false false hfits
  rw [hend, String.ofList_toList, hslash] at hpattern
  simpa [markedLine, Pattern.ofPath] using hpattern

/-- The line that takes a file in again is read as the pattern for the file. -/
theorem patternOfLine?_again (h : IsLiteral (ofNames (dirs ++ [name]))) (hne : dirs ≠ [])
    (hway : ∀ n ∈ dirs ++ [name], IsName n) :
    patternOfLine? ("!" ++ ofNames (dirs ++ [name])) = some (.ofPath true (dirs ++ [name])) := by
  obtain ⟨hempty, -, -, hslash⟩ := hway name (by simp)
  have hpath := Path.toList_ofNames_concat hne name
  have hlast : (ofNames (dirs ++ [name])).toList.getLast? = name.toList.getLast? := by
    rw [hpath, List.append_cons, List.getLast?_append_of_ne_nil _
      (mt String.toList_eq_nil_iff.mp hempty)]
  have hfits : FitsLine (ofNames (dirs ++ [name])).toList :=
    ⟨h.toHasPlainEnds, by simp [hpath], Path.head?_ofNames_ne hway,
      fun hc => hslash (List.mem_of_mem_getLast? (hlast ▸ hc))⟩
  have hend : dropSubtreeEnd (ofNames (dirs ++ [name])).toList =
      (ofNames (dirs ++ [name])).toList := by
    refine if_neg fun hsuffix => ?_
    have hstar := (List.isSuffixOf_iff_suffix.mp hsuffix).subset (a := '*') (by simp)
    exact (h.no_wildcard '*' hstar).1 rfl
  have hcontains : (ofNames (dirs ++ [name])).toList.contains '/' = true := by simp [hpath]
  have hpattern := patternOfLine?_markedLine true false hfits
  rw [hend, String.ofList_toList, hcontains] at hpattern
  simpa [markedLine, Pattern.ofPath] using hpattern

end Lines

end Ignore

namespace Discovery

open ModuleLint.Ignore (HasNoWildcard IsLiteral Readable excludes subtreePatterns)
open ModuleLint.Path (IsName ofNames)

section Subtree

variable [CharacterNames] {dirs dirs' : List String} {name name' : String}

/-- Where a directory is left out, taking a file in it in again changes nothing: all that lies in
the directory is lost. -/
theorem loses_subtreePatterns_iff (hplain : HasNoWildcard (ofNames (dirs ++ [name])).toList)
    (hne : dirs ≠ []) (hway : ∀ n ∈ dirs ++ [name], IsName n)
    (hway' : ∀ n ∈ dirs' ++ [name'], IsName n) :
    Loses (excludes (subtreePatterns dirs name)) dirs' name' ↔ dirs <+: dirs' ++ [name'] := by
  have hrule {names : List String} (hnames : names <+: dirs' ++ [name']) (isDirectory : Bool) :
      excludes (subtreePatterns dirs name) names isDirectory = true ↔
        dirs <+: names ∧ ¬ dirs ++ [name] <+: names :=
    Ignore.excludes_subtreePatterns hplain hne hway fun n hn => hway' n (hnames.subset hn)
  constructor
  · intro hlost
    rcases hlost with hexcluded | ⟨way, hbeginning, hexcluded⟩
    · exact ((hrule (List.prefix_refl _) false).mp hexcluded).1
    · have hbelow := hbeginning.trans (List.prefix_append dirs' [name'])
      exact ((hrule hbelow true).mp hexcluded).1.trans hbelow
  · intro hbelow
    -- The directory itself is left out, since the file lies deeper.
    have hdeeper : ¬ dirs ++ [name] <+: dirs := fun hprefix => absurd hprefix.length_le (by simp)
    rcases List.prefix_concat_iff.mp hbelow with heq | hbeginning
    · left
      rw [← heq, hrule hbelow]
      exact ⟨List.prefix_refl _, hdeeper⟩
    · exact .inr ⟨dirs, hbeginning, (hrule hbelow true).mpr ⟨List.prefix_refl _, hdeeper⟩⟩

end Subtree

/-- Where one line is for what lies in a directory and a later one takes a file in it in again,
discovery lists no file in that directory, not even the one to be taken in again: it lists the files
that are looked for and lie elsewhere. -/
theorem mem_discover_iff_not_below [CharacterNames] (tree : Directory) (root : String)
    (settings : Settings) (hwf : (projectAt tree root).WellFormed) {dirs : List String} {name : String}
    {bytes : List UInt8} (hne : dirs ≠ []) (hliteral : IsLiteral (ofNames (dirs ++ [name])))
    (hfile : (projectAt tree root).HasFile dirs name bytes)
    (hlines : ignoreLines tree root settings.ignoreFile ++ settings.extraIgnores =
      [ofNames dirs ++ "/**", "!" ++ ofNames (dirs ++ [name])]) :
    ∃ found, discover tree root settings = .ok found ∧
      ofNames (dirs ++ [name]) ∉ found ∧
      ∀ path, path ∈ found ↔ ∃ dirs' name' bytes',
        (projectAt tree root).HasFile dirs' name' bytes' ∧
        Sought settings.extensions dirs' name' ∧ ¬ dirs <+: dirs' ∧
        path = ofNames (dirs' ++ [name']) := by
  have hway := hfile.isName hwf
  have hpatterns : patterns tree root settings = subtreePatterns dirs name := by
    rw [patterns_eq_patternsOfLines, hlines, Ignore.patternsOfLines, List.filterMap_cons_some
      (Ignore.patternOfLine?_subtree hliteral hne hway), List.filterMap_cons_some
      (Ignore.patternOfLine?_again hliteral hne hway), List.filterMap_nil, subtreePatterns]
  have hreadable : Readable (patterns tree root settings) :=
    hpatterns ▸ Ignore.readable_subtreePatterns hliteral.no_wildcard hne
  obtain ⟨found, hfound⟩ := exists_discover_eq_ok hreadable
  have hlisted : ∀ path, path ∈ found ↔ ∃ dirs' name' bytes',
      (projectAt tree root).HasFile dirs' name' bytes' ∧
      Sought settings.extensions dirs' name' ∧ ¬ dirs <+: dirs' ∧
      path = ofNames (dirs' ++ [name']) := by
    intro path
    rw [mem_iff_of_discover hwf hfound]
    refine exists₃_congr fun dirs' name' bytes' => and_congr_right fun hfile' => ?_
    have hway' := hfile'.isName hwf
    have hbelow : dirs <+: dirs' ++ [name'] ↔ dirs <+: dirs' := by
      rw [List.prefix_concat_iff, or_iff_right]
      rintro rfl
      exact hfile.not_concat_prefix hfile' hwf (List.prefix_refl _)
    rw [eligible_iff hreadable hway', hpatterns,
      loses_subtreePatterns_iff hliteral.no_wildcard hne hway hway', hbelow, and_assoc]
  refine ⟨found, hfound, fun hmem => ?_, hlisted⟩
  obtain ⟨dirs', name', bytes', hfile', -, houtside, heq⟩ := (hlisted _).mp hmem
  have hsame := Path.ofNames_inj hway (hfile'.isName hwf) heq
  obtain ⟨rfl, rfl⟩ := List.append_singleton_inj.mp hsame
  exact houtside (List.prefix_refl _)

/-- A project whose ignore lines leave out what lies in a directory, and then take in again one of
the two files in it. -/
def reclaimedProject : Directory :=
  [(".gitignore", .file (Text.Utf8.encode "src/**\n!src/a.ts\n")),
    ("lib", .directory [("c.ts", .file [])]),
    ("src", .directory [("a.ts", .file []), ("b.ts", .file [])])]

/-- Two files stand in that directory, and one elsewhere. -/
theorem hasFile_reclaimedProject :
    (projectAt reclaimedProject "").HasFile ["src"] "a.ts" [] ∧
      (projectAt reclaimedProject "").HasFile ["src"] "b.ts" [] ∧
      (projectAt reclaimedProject "").HasFile ["lib"] "c.ts" [] := by
  have hproject : projectAt reclaimedProject "" = reclaimedProject := rfl
  rw [hproject]
  simp [reclaimedProject, Directory.HasFile.cons_iff (d := _ :: _)]

/-- The ignore file has these two lines. -/
theorem ignoreLines_reclaimedProject :
    ignoreLines reclaimedProject "" (some ".gitignore") ++ [] = ["src/**", "!src/a.ts"] := by
  decide +kernel

/-- In that project discovery lists neither file in the directory, but the one elsewhere. -/
theorem mem_discover_iff_not_below_reclaimed :
    (projectAt reclaimedProject "").WellFormed ∧ ["src"] ≠ [] ∧ IsLiteral "src/a.ts" ∧
      (projectAt reclaimedProject "").HasFile ["src"] "a.ts" [] ∧
      ignoreLines reclaimedProject "" (some ".gitignore") ++ [] = ["src/**", "!src/a.ts"] ∧
      ∃ found, discover reclaimedProject "" {} = .ok found ∧ "src/a.ts" ∉ found ∧
        "src/b.ts" ∉ found ∧ "lib/c.ts" ∈ found := by
  have hwf : (projectAt reclaimedProject "").WellFormed := by decide +kernel
  have hliteral : IsLiteral (ofNames (["src"] ++ ["a.ts"])) := by
    constructor <;> decide +kernel
  obtain ⟨ha, hb, hc⟩ := hasFile_reclaimedProject
  obtain ⟨found, hfound, hlost, hlisted⟩ :=
    mem_discover_iff_not_below reclaimedProject "" {} hwf (by decide) hliteral ha
      ignoreLines_reclaimedProject
  refine ⟨hwf, by decide, hliteral, ha, ignoreLines_reclaimedProject, found, hfound, hlost, fun hmem => ?_, ?_⟩
  · obtain ⟨dirs, name, bytes, hfile, -, houtside, heq⟩ := (hlisted "src/b.ts").mp hmem
    have hsame := Path.ofNames_inj (hb.isName hwf) (hfile.isName hwf) heq
    obtain ⟨rfl, rfl⟩ := List.append_singleton_inj.mp hsame
    exact houtside (List.prefix_refl _)
  · exact (hlisted "lib/c.ts").mpr ⟨["lib"], "c.ts", [], hc,
      ⟨by decide, by decide, by decide, by decide⟩, by decide, rfl⟩

/-- It is not so that a file in a directory is listed if one line is for what lies in the directory
and a later one takes the file in again. -/
theorem not_forall_mem_discover_again :
    ¬ ∀ (tree : Directory) (root : String) (settings : Settings) (dirs : List String)
      (name : String) (bytes : List UInt8), (projectAt tree root).WellFormed → dirs ≠ [] →
      IsLiteral (ofNames (dirs ++ [name])) → (projectAt tree root).HasFile dirs name bytes →
      Sought settings.extensions dirs name →
      ignoreLines tree root settings.ignoreFile ++ settings.extraIgnores =
        [ofNames dirs ++ "/**", "!" ++ ofNames (dirs ++ [name])] →
      ∃ found, discover tree root settings = .ok found ∧
        ∀ dirs' name' bytes', (projectAt tree root).HasFile dirs' name' bytes' → dirs <+: dirs' →
          (ofNames (dirs' ++ [name']) ∈ found ↔ dirs' = dirs ∧ name' = name) := by
  intro hclaim
  have hwf : (projectAt reclaimedProject "").WellFormed := by decide +kernel
  have hliteral : IsLiteral "src/a.ts" := by
    constructor <;> decide +kernel
  have hfile := hasFile_reclaimedProject.1
  have hsought : Sought [".ts"] ["src"] "a.ts" := ⟨by decide, by decide, by decide, by decide⟩
  obtain ⟨found, hfound, hlisted⟩ :=
    hclaim reclaimedProject "" {} ["src"] "a.ts" [] hwf (by decide) hliteral hfile hsought
      ignoreLines_reclaimedProject
  have hmem : ofNames (["src"] ++ ["a.ts"]) ∈ found :=
    (hlisted _ _ _ hfile (List.prefix_refl _)).mpr ⟨rfl, rfl⟩
  have hreadable : Readable (patterns reclaimedProject "" {}) := by decide +kernel
  have hkept := (mem_discover_iff_eligible hwf hfound hfile).mp hmem
  have hlost : Loses (excludes (patterns reclaimedProject "" {})) ["src"] "a.ts" := by
    decide +kernel
  exact ((eligible_iff hreadable (hfile.isName hwf)).mp hkept).2 hlost

end Discovery

end ModuleLint
