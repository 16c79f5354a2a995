import BeanContainer.Catalog
import BeanContainer.Proofs.TypePattern.NamePattern

/-!
# What a resource pattern selects

A glob stands for a set of paths, which `Globs` gives by reading the glob from the left. The matcher
goes another way, by the pieces of the glob and the text of an expression that they are put together
to. The two agree on paths without line feeds (`ResourcePattern.selects_iff_globs`), because each
piece is a text for a language (`GlobPiece.expresses`), and the language of the whole is their
product.

Below a package without wildcards, `**/*` takes everything: the paths that start with the path of
the package and a slash (`Globs.below_iff`). In terms of names these are the types whose names start
with the package and a separator, provided that names can be told from paths
(`pathOfName_prefix_iff`).
-/

namespace BeanContainer

/-- `Globs glob path`: the path is one that the glob stands for. -/
inductive Globs : List Char → List Char → Prop
  | nil : Globs [] []
  /-- `**/` stands for nothing, … -/
  | here {glob path : List Char} : Globs glob path → Globs ('*' :: '*' :: '/' :: glob) path
  /-- … or for any text that ends in a slash. -/
  | deeper {glob path : List Char} (u : List Char) : Globs glob path →
      Globs ('*' :: '*' :: '/' :: glob) (u ++ '/' :: path)
  | anything {glob path : List Char} (u : List Char) : glob.head? ≠ some '/' → Globs glob path →
      Globs ('*' :: '*' :: glob) (u ++ path)
  | segmentPart {glob path : List Char} (u : List Char) : '/' ∉ u → glob.head? ≠ some '*' →
      Globs glob path → Globs ('*' :: glob) (u ++ path)
  | one {glob path : List Char} (c : Char) : c ≠ '/' → Globs glob path →
      Globs ('?' :: glob) (c :: path)
  | literal {glob path : List Char} {c : Char} : c ≠ '*' → c ≠ '?' → Globs glob path →
      Globs (c :: glob) (c :: path)

/-! ### Pieces -/

namespace GlobPiece

def noLineFeed : CharSet := .compl (.single '\n')

def noSlash : CharSet := .compl (.single '/')

theorem mem_noLineFeed {c : Char} : noLineFeed.mem c = true ↔ c ≠ '\n' := by
  rw [noLineFeed, CharSet.mem_compl, Bool.not_eq_true', Bool.eq_false_iff, Ne, CharSet.mem_single]

theorem mem_noSlash {c : Char} : noSlash.mem c = true ↔ c ≠ '/' := by
  rw [noSlash, CharSet.mem_compl, Bool.not_eq_true', Bool.eq_false_iff, Ne, CharSet.mem_single]

/-- The texts that a piece stands for. -/
def language : GlobPiece → Language Char
  | directories => 1 + noLineFeed.texts * {['/']}
  | anything => noLineFeed.texts
  | segmentPart => noSlash.texts
  | one => noSlash.letters
  | literal c => {[c]}

theorem renders_anything : Regex.Renders ".*".toList [.part (.star (.char noLineFeed)) 1] :=
  Regex.isElement_dot.repeated (by decide) (by decide) (by decide : ('*', 0, none) ∈ _)

theorem expresses_directories :
    Regex.Expresses "(?:.*/)?".toList (1 + noLineFeed.texts * {['/']}) := by
  have hslash : Regex.Renders ['/'] [.part (.literal '/') 0] :=
    (Regex.isElement_escaped '/').renders (by decide)
  have hgroup := Regex.IsElement.group (renders_anything.append hslash)
  refine (hgroup.repeated (by decide) (by decide) (by decide : ('?', 0, some 1) ∈ _)).expresses
    (by decide) ?_
  exact (((Regex.Denotes.starChar noLineFeed).seq (.literal '/')).group false).optional

/-- **The text of a piece is an expression for what the piece stands for.** -/
theorem expresses (p : GlobPiece) : Regex.Expresses p.regex p.language := by
  have hclass := Regex.isElement_complement (by decide : '/' ∈ [':', '/'])
  cases p with
  | directories => exact expresses_directories
  | anything => exact renders_anything.expresses (by decide) (.starChar noLineFeed)
  | segmentPart =>
    exact (hclass.repeated (by decide) (by decide) (by decide : ('*', 0, none) ∈ _)).expresses
      (by decide) (.starChar noSlash)
  | one => exact (hclass.renders (by decide)).expresses (by decide) (.char noSlash)
  | literal c => exact .escaped c

/-- A text without line feeds, taken apart. -/
theorem not_mem_of_append {u v : List Char} (h : '\n' ∉ u ++ v) :
    u ∈ noLineFeed.texts ∧ '\n' ∉ v := by
  rw [List.mem_append, not_or] at h
  refine ⟨fun c hc => mem_noLineFeed.2 ?_, h.2⟩
  rintro rfl
  exact h.1 hc

theorem mem_texts_noSlash {u : List Char} : u ∈ noSlash.texts ↔ '/' ∉ u := by
  rw [CharSet.mem_texts]
  simp only [mem_noSlash]
  exact ⟨fun h hslash => h '/' hslash rfl, fun h c hc hslash => h (hslash ▸ hc)⟩

/-- **The pieces of a glob stand for what the glob stands for.** -/
theorem mem_prod_ofChars_iff {glob path : List Char} (hpath : '\n' ∉ path) :
    path ∈ ((ofChars glob).map language).prod ↔ Globs glob path := by
  -- by what the glob starts with, as it is cut into pieces: the constructors of `Globs` are these
  -- cases, and in each of them the others are excluded by the first characters
  induction glob using ofChars.induct generalizing path with
  | case1 glob ih =>
    -- two stars and a slash: any number of directories, the first of which may be missing
    rw [ofChars, List.map_cons, List.prod_cons, Language.mem_mul]
    constructor
    · rintro ⟨u, hu, v, hv, rfl⟩
      have hglobs := (ih (not_mem_of_append hpath).2).1 hv
      rcases hu with rfl | ⟨w, -, _, rfl, rfl⟩
      · exact hglobs.here
      · change Globs _ (w ++ ['/'] ++ v)
        rw [List.append_assoc]
        exact hglobs.deeper w
    · intro h
      cases h with
      | here h => exact ⟨[], .inl rfl, path, (ih hpath).2 h, rfl⟩
      | deeper u h =>
        obtain ⟨hu, hrest⟩ := not_mem_of_append hpath
        refine ⟨u ++ ['/'], .inr ⟨u, hu, ['/'], rfl, rfl⟩, _,
          (ih fun hmem => hrest (List.mem_cons_of_mem _ hmem)).2 h, ?_⟩
        rw [List.append_assoc]
        rfl
      | anything u hslash h => exact absurd rfl hslash
      | segmentPart u hu hstar h => exact absurd rfl hstar
      | literal hstar => exact absurd rfl hstar
  | case2 glob hslash ih =>
    -- two stars and no slash after them
    have hhead : glob.head? ≠ some '/' := by
      intro hhead
      obtain ⟨rest, rfl⟩ := List.head?_eq_some_iff.1 hhead
      exact hslash rest rfl
    rw [ofChars.eq_2 _ hslash, List.map_cons, List.prod_cons, Language.mem_mul]
    constructor
    · rintro ⟨u, -, v, hv, rfl⟩
      exact ((ih (not_mem_of_append hpath).2).1 hv).anything u hhead
    · intro h
      cases h with
      | here | deeper => exact absurd rfl hhead
      | anything u _ h =>
        obtain ⟨hu, hrest⟩ := not_mem_of_append hpath
        exact ⟨u, hu, _, (ih hrest).2 h, rfl⟩
      | segmentPart u hu hstar h => exact absurd rfl hstar
      | literal hstar => exact absurd rfl hstar
  | case3 glob hslash hstar ih =>
    -- one star alone, which stays within a directory
    have hhead : glob.head? ≠ some '*' := by
      intro hhead
      obtain ⟨rest, rfl⟩ := List.head?_eq_some_iff.1 hhead
      exact hstar rest rfl
    rw [ofChars.eq_3 _ hslash hstar, List.map_cons, List.prod_cons, Language.mem_mul]
    constructor
    · rintro ⟨u, hu, v, hv, rfl⟩
      exact ((ih (not_mem_of_append hpath).2).1 hv).segmentPart u (mem_texts_noSlash.1 hu) hhead
    · intro h
      cases h with
      | here | deeper | anything => exact absurd rfl hhead
      | segmentPart u hu _ h =>
        exact ⟨u, mem_texts_noSlash.2 hu, _, (ih (not_mem_of_append hpath).2).2 h, rfl⟩
      | literal hne => exact absurd rfl hne
  | case4 glob ih =>
    -- a question mark
    rw [ofChars, List.map_cons, List.prod_cons, Language.mem_mul]
    constructor
    · rintro ⟨_, ⟨c, hc, rfl⟩, v, hv, rfl⟩
      exact ((ih (not_mem_of_append hpath).2).1 hv).one c (mem_noSlash.1 hc)
    · intro h
      cases h with
      | one c hc h =>
        exact ⟨[c], ⟨c, mem_noSlash.2 hc, rfl⟩, _,
          (ih fun hmem => hpath (List.mem_cons_of_mem _ hmem)).2 h, rfl⟩
      | literal _ hne => exact absurd rfl hne
  | case5 c glob hdirectories hanything hstar hone ih =>
    have hc : c ≠ '*' := fun h => hstar h
    have hq : c ≠ '?' := fun h => hone h
    rw [ofChars.eq_5 _ _ hdirectories hanything hstar hone, List.map_cons, List.prod_cons,
      Language.mem_mul]
    constructor
    · rintro ⟨_, rfl, v, hv, rfl⟩
      exact ((ih (not_mem_of_append hpath).2).1 hv).literal hc hq
    · intro h
      cases h with
      | here | deeper | anything | segmentPart => exact absurd rfl hc
      | one => exact absurd rfl hq
      | literal _ _ h =>
        exact ⟨[c], rfl, _, (ih fun hmem => hpath (List.mem_cons_of_mem _ hmem)).2 h, rfl⟩
  | case6 =>
    rw [ofChars, List.map_nil, List.prod_nil, Language.mem_one]
    constructor
    · rintro rfl
      exact .nil
    · rintro ⟨⟩
      rfl

end GlobPiece

/-! ### Globs of packages -/

namespace Globs

variable {glob path : List Char}

/-- What is no wildcard stands for itself. -/
theorem cons_iff {c : Char} (hstar : c ≠ '*') (hone : c ≠ '?') :
    Globs (c :: glob) path ↔ ∃ rest, path = c :: rest ∧ Globs glob rest := by
  constructor
  · intro h
    cases h with
    | here | deeper | anything | segmentPart => exact absurd rfl hstar
    | one => exact absurd rfl hone
    | literal _ _ h => exact ⟨_, rfl, h⟩
  · rintro ⟨rest, rfl, h⟩
    exact .literal hstar hone h

theorem append_iff {front : List Char} (h : ∀ c ∈ front, c ≠ '*' ∧ c ≠ '?') :
    Globs (front ++ glob) path ↔ ∃ rest, path = front ++ rest ∧ Globs glob rest := by
  induction front generalizing path with
  | nil => simp
  | cons c front ih =>
    obtain ⟨⟨hstar, hone⟩, hfront⟩ := List.forall_mem_cons.1 h
    rw [List.cons_append, cons_iff hstar hone]
    constructor
    · rintro ⟨_, rfl, hglobs⟩
      obtain ⟨rest, rfl, hrest⟩ := (ih hfront).1 hglobs
      exact ⟨rest, rfl, hrest⟩
    · rintro ⟨rest, rfl, hglobs⟩
      exact ⟨front ++ rest, rfl, (ih hfront).2 ⟨rest, rfl, hglobs⟩⟩

theorem star_iff : Globs ['*'] path ↔ '/' ∉ path := by
  constructor
  · intro h
    cases h with
    | segmentPart u hu _ h =>
      cases h
      rwa [List.append_nil]
    | literal hstar => exact absurd rfl hstar
  · intro hpath
    have hglobs : Globs ['*'] (path ++ []) := .segmentPart path hpath nofun .nil
    rwa [List.append_nil] at hglobs

/-- The glob that stands for everything. What comes before the last slash are the directories. -/
theorem everything (path : List Char) : Globs ['*', '*', '/', '*'] path := by
  induction path with
  | nil => exact .here (star_iff.2 List.not_mem_nil)
  | cons c path ih =>
    cases ih with
    | here h =>
      by_cases hc : c = '/'
      · subst hc
        exact .deeper [] h
      · refine .here (star_iff.2 fun hmem => ?_)
        exact star_iff.1 h ((List.mem_cons.1 hmem).resolve_left fun heq => hc heq.symm)
    | deeper u h => exact .deeper (c :: u) h
    | anything u hslash h => exact absurd rfl hslash
    | segmentPart u hu hstar h => exact absurd rfl hstar
    | literal hstar => exact absurd rfl hstar

/-- Below a text without wildcards. -/
theorem below_iff {front : List Char} (h : ∀ c ∈ front, c ≠ '*' ∧ c ≠ '?') :
    Globs (front ++ '/' :: ['*', '*', '/', '*']) path ↔ front ++ ['/'] <+: path := by
  have hfront : ∀ c ∈ front ++ ['/'], c ≠ '*' ∧ c ≠ '?' := by
    intro c hc
    rcases List.mem_append.1 hc with hc | hc
    · exact h c hc
    · rw [List.mem_singleton.1 hc]
      decide
  rw [← List.singleton_append, ← List.append_assoc, append_iff hfront]
  constructor
  · rintro ⟨rest, rfl, -⟩
    exact List.prefix_append _ _
  · rintro ⟨rest, rfl⟩
    exact ⟨rest, rfl, everything rest⟩

end Globs

/-! ### Names and paths -/

/-- Puts a separator for each slash. -/
def nameOfPath (path : List Char) : List Char :=
  path.flatMap fun c => if c = '/' then [':', ':'] else [c]

/-- Names without slashes can be told from their paths. -/
theorem nameOfPath_pathOfName {name : List Char} (h : '/' ∉ name) :
    nameOfPath (pathOfName name) = name := by
  induction name using pathOfName.induct with
  | case1 cs ih =>
    rw [pathOfName, nameOfPath, List.flatMap_cons, if_pos rfl]
    change ':' :: ':' :: nameOfPath (pathOfName cs) = _
    rw [ih fun hmem => h (List.mem_cons_of_mem _ (List.mem_cons_of_mem _ hmem))]
  | case2 c cs hseparator ih =>
    rw [pathOfName.eq_2 _ _ hseparator, nameOfPath, List.flatMap_cons,
      if_neg fun heq : c = '/' => h (heq ▸ List.mem_cons_self)]
    change c :: nameOfPath (pathOfName cs) = _
    rw [ih fun hmem => h (List.mem_cons_of_mem _ hmem)]
  | case3 => rfl

theorem mem_of_mem_pathOfName {c : Char} {name : List Char} (h : c ∈ pathOfName name) :
    c = '/' ∨ c ∈ name := by
  induction name using pathOfName.induct with
  | case1 cs ih =>
    rw [pathOfName] at h
    rcases List.mem_cons.1 h with h | h
    · exact .inl h
    · exact (ih h).imp_right fun hmem => List.mem_cons_of_mem _ (List.mem_cons_of_mem _ hmem)
  | case2 d cs hseparator ih =>
    rw [pathOfName.eq_2 _ _ hseparator] at h
    rcases List.mem_cons.1 h with h | h
    · exact .inr (h ▸ List.mem_cons_self)
    · exact (ih h).imp_right (List.mem_cons_of_mem _)
  | case3 => cases h

/-- A separator behind a name that does not end in a colon is a slash in the path. -/
theorem pathOfName_separator {name : List Char} (h : name.getLast? ≠ some ':') (rest : List Char) :
    pathOfName (name ++ ':' :: ':' :: rest) = pathOfName name ++ '/' :: pathOfName rest := by
  induction name using pathOfName.induct with
  | case1 cs ih =>
    have hlast : cs.getLast? ≠ some ':' := by
      cases cs with
      | nil => nofun
      | cons d cs => rwa [List.getLast?_cons_cons, List.getLast?_cons_cons] at h
    rw [List.cons_append, List.cons_append, pathOfName, pathOfName, ih hlast, List.cons_append]
  | case2 c cs hseparator ih =>
    have hseparator' : ∀ ds, c = ':' → cs ++ ':' :: ':' :: rest = ':' :: ds → False := by
      rintro ds rfl hcs
      cases cs with
      | nil => exact h rfl
      | cons d cs =>
        cases hcs
        exact hseparator cs rfl rfl
    have hlast : cs.getLast? ≠ some ':' := by
      cases cs with
      | nil => nofun
      | cons d cs => rwa [List.getLast?_cons_cons] at h
    rw [List.cons_append, pathOfName.eq_2 _ _ hseparator', pathOfName.eq_2 _ _ hseparator, ih hlast,
      List.cons_append]
  | case3 => rw [List.nil_append, pathOfName]; rfl

/-- A package in front of a name is one in front of its path. -/
theorem pathOfName_prefix_iff {package name : List Char} (hpackage : '/' ∉ package)
    (hlast : package.getLast? ≠ some ':') (hname : '/' ∉ name) :
    pathOfName package ++ ['/'] <+: pathOfName name ↔ package ++ [':', ':'] <+: name := by
  constructor
  · rintro ⟨rest, hrest⟩
    have hpath := congrArg nameOfPath hrest
    rw [nameOfPath_pathOfName hname, nameOfPath, List.flatMap_append, List.flatMap_append] at hpath
    change nameOfPath (pathOfName package) ++ [':', ':'] ++ nameOfPath rest = name at hpath
    rw [nameOfPath_pathOfName hpackage] at hpath
    exact ⟨_, hpath⟩
  · rintro ⟨rest, rfl⟩
    refine ⟨pathOfName rest, ?_⟩
    rw [List.append_assoc, List.append_assoc]
    exact (pathOfName_separator hlast rest).symm

/-! ### Resource patterns -/

theorem dropTrailingSeparators_of_getLast? {name : List Char} (h : name.getLast? ≠ some ':') :
    dropTrailingSeparators name = name := by
  have hgo : dropTrailingSeparators.go name.reverse = name.reverse := by
    rw [← List.head?_reverse] at h
    unfold dropTrailingSeparators.go
    split
    · rename_i heq
      rw [heq] at h
      exact absurd rfl h
    · rfl
  rw [dropTrailingSeparators, hgo, List.reverse_reverse]

theorem mem_of_mem_dropTrailingSeparators {c : Char} {name : List Char}
    (h : c ∈ dropTrailingSeparators name) : c ∈ name := by
  have hgo : ∀ cs : List Char, c ∈ dropTrailingSeparators.go cs → c ∈ cs := by
    intro cs
    induction cs using dropTrailingSeparators.go.induct with
    | case1 cs ih =>
      rw [dropTrailingSeparators.go]
      exact fun hmem => List.mem_cons_of_mem _ (List.mem_cons_of_mem _ (ih hmem))
    | case2 cs hseparator =>
      rw [dropTrailingSeparators.go.eq_2 _ hseparator]
      exact id
  rw [dropTrailingSeparators, List.mem_reverse] at h
  exact List.mem_reverse.1 (hgo _ h)

namespace ResourcePattern

theorem exists_regex? (p : ResourcePattern) : ∃ r, p.regex? = .ok r ∧
    ∀ path, r.search path = true ↔
      path ∈ ((GlobPiece.ofChars p.glob).map GlobPiece.language).prod :=
  (Regex.Expresses.flatMap GlobPiece.expresses _).readAnchored?

/-- **A resource pattern selects the names whose paths its glob stands for**, as long as there are
no line feeds in them. -/
theorem selects_iff_globs (p : ResourcePattern) {name : String} (h : '\n' ∉ name.toList) :
    p.selects name = true ↔ Globs p.glob (pathOfName name.toList) := by
  have hpath : '\n' ∉ pathOfName name.toList := by
    intro hmem
    rcases mem_of_mem_pathOfName hmem with hslash | hmem
    · exact absurd hslash (by decide)
    · exact h hmem
  obtain ⟨r, hr, hsearch⟩ := p.exists_regex?
  unfold selects
  rw [hr]
  exact (hsearch _).trans (GlobPiece.mem_prod_ofChars_iff hpath)

/-- The path of a package without the separators at its end. -/
def basePath (package : String) : List Char := pathOfName (dropTrailingSeparators package.toList)

/-- `**/*` in a package selects what is below the package, or everything if there is none. -/
theorem selects_below_iff {package name : String} (hwild : ∀ c ∈ package.toList, c ≠ '*' ∧ c ≠ '?')
    (hname : '\n' ∉ name.toList) : (ofPackage package "**/*").selects name = true ↔
      basePath package = [] ∨ basePath package ++ ['/'] <+: pathOfName name.toList := by
  rw [selects_iff_globs _ hname]
  change Globs (if (basePath package).isEmpty then _ else basePath package ++ '/' :: _) _ ↔ _
  have hbase : ∀ c ∈ basePath package, c ≠ '*' ∧ c ≠ '?' := by
    intro c hc
    rcases mem_of_mem_pathOfName hc with rfl | hc
    · decide
    · exact hwild c (mem_of_mem_dropTrailingSeparators hc)
  by_cases hempty : basePath package = []
  · rw [if_pos (List.isEmpty_iff.2 hempty)]
    exact iff_of_true (Globs.everything _) (.inl hempty)
  · rw [if_neg fun h => hempty (List.isEmpty_iff.1 h), or_iff_right hempty]
    exact Globs.below_iff hbase

/-- **What a scan finds in a package.** A resource pattern always reads as an expression, of whose
compiled size nothing is said, and it selects the names whose paths the glob of package and pattern
stands for. Without wildcards in the package, `**/*` selects what is below the path of the package,
or everything if nothing but separators is in it; as long as no slash and no colon at the end blurs
the package, these are the names that start with the package and a separator. The catalog gives each
selected type once, in the order of the names. -/
theorem ofPackage_selects (package : String) :
    (∀ pattern : String, ∃ r, (ofPackage package pattern).regex? = .ok r) ∧
    (∀ pattern name : String, '\n' ∉ name.toList →
      ((ofPackage package pattern).selects name = true ↔
        Globs (ofPackage package pattern).glob (pathOfName name.toList))) ∧
    ((∀ c ∈ package.toList, c ≠ '*' ∧ c ≠ '?') → ∀ name : String, '\n' ∉ name.toList →
      ((ofPackage package "**/*").selects name = true ↔
        basePath package = [] ∨ basePath package ++ ['/'] <+: pathOfName name.toList) ∧
      (package ≠ "" → '/' ∉ package.toList → package.toList.getLast? ≠ some ':' →
        '/' ∉ name.toList →
        ((ofPackage package "**/*").selects name = true ↔
          (package ++ "::").toList <+: name.toList))) ∧
    ∀ (pattern : String) (c : Catalog),
      ((c.candidates (ofPackage package pattern)).Pairwise fun t t' => t.name < t'.name) ∧
      ∀ t, t ∈ c.candidates (ofPackage package pattern) ↔
        c.find? t.name = some t ∧ (ofPackage package pattern).selects t.name = true := by
  refine ⟨fun pattern => (exists_regex? _).imp fun _ hr => hr.1,
    fun pattern name hname => selects_iff_globs _ hname, fun hwild name hname => ?_,
    fun pattern c => ⟨c.candidates_sorted _, fun t => Catalog.mem_candidates⟩⟩
  have hbelow := selects_below_iff hwild hname
  refine ⟨hbelow, fun hne hpackage hlast hslash => ?_⟩
  have hbase : basePath package = pathOfName package.toList := by
    rw [basePath, dropTrailingSeparators_of_getLast? hlast]
  have hbase_ne : basePath package ≠ [] := by
    rw [hbase]
    -- without a slash in it a package can be read off its path again
    intro hnil
    have hchars := nameOfPath_pathOfName hpackage
    rw [hnil] at hchars
    exact hne (String.toList_eq_nil_iff.1 hchars.symm)
  rw [hbelow, or_iff_right hbase_ne, hbase, pathOfName_prefix_iff hpackage hlast hslash,
    String.toList_append]
  rfl

/-- Two types, one below the package of the other. -/
def nested : Catalog :=
  .ofTypes [{ metadata := { name := "example::Dao" } },
    { metadata := { name := "example::dao::UserDao" } }]

/-- A scan of the inner package finds the inner type only. -/
theorem nested_candidates : ∃ t, nested.find? "example::dao::UserDao" = some t ∧
    t ∈ nested.candidates (ofPackage "example::dao" "**/*") ∧
    Globs "example/dao/**/*".toList "example/dao/UserDao".toList ∧
    ∀ t' ∈ nested.candidates (ofPackage "example::dao" "**/*"), t'.name ≠ "example::Dao" := by
  obtain ⟨-, hglobs, hbelow, hcandidates⟩ := ofPackage_selects "example::dao"
  have hplain : ("example::dao".toList.all fun c => c != '*' && c != '?') = true := by
    decide +kernel
  have hwild : ∀ c ∈ "example::dao".toList, c ≠ '*' ∧ c ≠ '?' :=
    fun c hc => by simpa using List.all_eq_true.1 hplain c hc
  have hinner : '\n' ∉ "example::dao::UserDao".toList ∧ '/' ∉ "example::dao::UserDao".toList := by
    decide +kernel
  have houter : '\n' ∉ "example::Dao".toList ∧ '/' ∉ "example::Dao".toList := by decide +kernel
  have hselects := ((hbelow hwild _ hinner.1).2 (by decide) (by decide +kernel) (by decide +kernel)
    hinner.2).2 (by decide +kernel)
  have hlisted : (nested.find? "example::dao::UserDao").map (·.name) =
      some "example::dao::UserDao" := by
    decide +kernel
  obtain ⟨t, ht, hname⟩ := Option.map_eq_some_iff.1 hlisted
  refine ⟨t, ht, ((hcandidates "**/*" nested).2 t).2 ⟨hname ▸ ht, hname ▸ hselects⟩,
    (hglobs "**/*" "example::dao::UserDao" hinner.1).1 hselects, ?_⟩
  rintro t' ht' hname'
  have hselects' := (((hcandidates "**/*" nested).2 t').1 ht').2
  rw [hname'] at hselects'
  have hprefix := ((hbelow hwild _ houter.1).2 (by decide) (by decide +kernel) (by decide +kernel)
    houter.2).1 hselects'
  exact absurd hprefix (by decide +kernel)

/-- In the empty package everything is selected, though no name starts with a separator. -/
theorem not_forall_selects_iff_prefix :
    ¬ ∀ package name : String, (∀ c ∈ package.toList, c ≠ '*' ∧ c ≠ '?') →
      TypePattern.IsName name → ((ofPackage package "**/*").selects name = true ↔
        (package ++ "::").toList <+: name.toList) := by
  intro hall
  have hchars : ["example", "A"].all (·.toList.all TypePattern.isNameChar) = true := by
    decide +kernel
  have hname : TypePattern.IsName "example::A" := by
    refine ⟨by decide, ["example", "A"], by decide +kernel, fun segment hsegment => ?_⟩
    exact List.all_eq_true.1 (List.all_eq_true.1 hchars segment hsegment)
  have hprefix := (hall "" "example::A" (fun _ hc => absurd hc List.not_mem_nil) hname).1
    (by decide +kernel)
  exact absurd hprefix (by decide +kernel)

end ResourcePattern

end BeanContainer
