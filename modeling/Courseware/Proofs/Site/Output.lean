import Courseware.Proofs.FileStore.Update
import Courseware.Proofs.Site.Run
import Courseware.Site.Build

/-!
# The files a build writes

`renderTo` makes the output directory, then writes the index page, each lesson's page under its
file name in course order, and the manifest `course.yaml`, each over what stood under its name.
Rendering writes nothing, so the files afterwards are the store after making the directory with
those texts written in that order (`putTexts`): the last text under a name is the one that
stays. A lesson's file name is its title's slug and `.html`; the manifest's name ends otherwise,
so it always holds the manifest, but a lesson whose slug is `index` writes `index.html` after
the index page and replaces it. Nothing else changes in the store.
-/

namespace Courseware

namespace Text

theorem collapseDashes_sublist (cs : List Char) : (collapseDashes cs).Sublist cs := by
  fun_induction collapseDashes cs with
  | case1 cs ih => exact ih.trans (List.sublist_cons_self _ _)
  | case2 c cs _ ih => exact ih.cons_cons c
  | case3 => exact List.Sublist.slnil

theorem slash_not_mem_slugChars (cs : List Char) : '/' ∉ slugChars cs := by
  intro h
  unfold slugChars dropEndWhile at h
  have hmapped : '/' ∈ cs.map fun c => if isFileChar c then c else '-' :=
    (collapseDashes_sublist _).subset (List.dropWhile_subset _ (List.mem_reverse.1
      (List.dropWhile_subset _ (List.mem_reverse.1 h))))
  obtain ⟨c, -, hc⟩ := List.mem_map.1 hmapped
  split at hc
  · next hfile =>
    subst hc
    exact absurd hfile (by decide)
  · exact absurd hc (by decide)

theorem slash_not_mem_fileSlug (title : String) : '/' ∉ (fileSlug title).toList := by
  unfold fileSlug
  split
  · decide
  · rw [String.toList_ofList]
    exact slash_not_mem_slugChars _

end Text

/-! ## Page names -/

theorem Lesson.html_suffix_fileName (l : Lesson) : ".html".toList <:+ l.fileName.toList :=
  ⟨(Text.fileSlug l.title).toList, by rw [fileName, String.toList_append]⟩

theorem Lesson.fileName_plain (l : Lesson) : FileStore.PlainName l.fileName where
  no_slash := by
    rw [fileName, String.toList_append, List.mem_append, not_or]
    exact ⟨Text.slash_not_mem_fileSlug _, by decide⟩
  ne_empty h := absurd (h ▸ l.html_suffix_fileName) (by decide)
  ne_dot h := absurd (h ▸ l.html_suffix_fileName) (by decide)
  ne_dotdot h := absurd (h ▸ l.html_suffix_fileName) (by decide)

theorem Lesson.fileName_ne_manifest (l : Lesson) : l.fileName ≠ "course.yaml" :=
  fun h => absurd (h ▸ l.html_suffix_fileName) (by decide)

theorem index_plain : FileStore.PlainName "index.html" :=
  ⟨by decide, by decide, by decide, by decide⟩

theorem manifest_plain : FileStore.PlainName "course.yaml" :=
  ⟨by decide, by decide, by decide, by decide⟩

namespace FileStore

theorem PlainName.not_base {name : String} (h : PlainName name) (dir : List String) :
    isBase (dir ++ [name]) = false := by
  have hslash : name ≠ "/" := fun he => h.no_slash (by rw [he]; decide)
  cases dir with
  | nil => simpa [isBase] using hslash
  | cons d ds => simp [isBase]

/-! ## Texts written into a directory -/

/-- The store with each text written as a file under its name into the directory at `dir`, in
order, each over what stood there. -/
def putTexts (fs : FileStore) (dir : List String) (texts : List (String × String)) : FileStore :=
  texts.foldl (fun fs t => fs.put (dir ++ [t.1]) (.file (Utf8.encode t.2))) fs

theorem entryAt_putTexts_name (fs : FileStore) (dir : List String) {name : String}
    (hname : PlainName name) (texts : List (String × String)) :
    (putTexts fs dir texts).entryAt (dir ++ [name]) =
      ((texts.reverse.lookup name).map fun t => Entry.file (Utf8.encode t)).or
        (fs.entryAt (dir ++ [name])) := by
  induction texts using List.reverseRecOn with
  | nil => simp [putTexts]
  | append_singleton texts t ih =>
    obtain ⟨key, text⟩ := t
    rw [putTexts, List.foldl_append, List.foldl_cons, List.foldl_nil, ← putTexts,
      List.reverse_append, List.reverse_singleton, List.singleton_append]
    by_cases hn : name = key
    · subst hn
      rw [entryAt_put_self _ _ (hname.not_base dir), List.lookup_cons_self]
      rfl
    · have hne : dir ++ [name] ≠ dir ++ [key] := by simpa using hn
      have hbeq : (name == key) = false := by simpa using hn
      have hlookup : ((key, text) :: texts.reverse).lookup name = texts.reverse.lookup name := by
        simp only [List.lookup_cons, hbeq]
      rw [entryAt_put_of_ne _ _ hne, hlookup, ih]

theorem entryAt_putTexts_of_ne {cs : List String} {dir : List String} :
    ∀ (texts : List (String × String)) (fs : FileStore), (∀ t ∈ texts, cs ≠ dir ++ [t.1]) →
      (putTexts fs dir texts).entryAt cs = fs.entryAt cs
  | [], _, _ => rfl
  | t :: texts, fs, h => by
    rw [putTexts, List.foldl_cons, ← putTexts,
      entryAt_putTexts_of_ne texts _ fun t' ht' => h t' (List.mem_cons_of_mem _ ht'),
      entryAt_put_of_ne _ _ (h t List.mem_cons_self)]

end FileStore

namespace Site

open FileStore

/-! ## The texts of a site -/

/-- The texts a build writes into its directory, in order: the index page, each lesson's page
under its name, and the manifest. -/
def siteTexts (idx : String) (lessons : List Lesson) (pages : List String) (manifest : String) :
    List (String × String) :=
  ("index.html", idx) :: (lessons.map Lesson.fileName).zip pages ++ [("course.yaml", manifest)]

section SiteTexts

variable (fs : FileStore) (dir : List String) (idx manifest : String) (lessons : List Lesson)
  (pages : List String)

theorem lookup_siteTexts_manifest :
    (siteTexts idx lessons pages manifest).reverse.lookup "course.yaml" = some manifest := by
  simp [siteTexts]

theorem lookup_siteTexts_of_ne {name : String} (h : name ≠ "course.yaml") :
    (siteTexts idx lessons pages manifest).reverse.lookup name =
      (((lessons.map Lesson.fileName).zip pages).reverse.lookup name).or
        ([("index.html", idx)].lookup name) := by
  have hbeq : (name == "course.yaml") = false := by simpa using h
  simp only [siteTexts, List.reverse_cons, List.reverse_append, List.reverse_nil,
    List.singleton_append, List.append_assoc, List.lookup_cons, hbeq, List.lookup_append,
    List.lookup_nil, Option.none_or]

theorem entryAt_siteTexts_manifest :
    (putTexts fs dir (siteTexts idx lessons pages manifest)).entryAt (dir ++ ["course.yaml"]) =
      some (.file (Utf8.encode manifest)) := by
  rw [entryAt_putTexts_name _ _ manifest_plain, lookup_siteTexts_manifest]
  rfl

/-- The index file holds the page of the last lesson named `index.html`, if there is one, and
the index page otherwise. -/
theorem entryAt_siteTexts_index :
    (putTexts fs dir (siteTexts idx lessons pages manifest)).entryAt (dir ++ ["index.html"]) =
      some (.file (Utf8.encode
        ((((lessons.map Lesson.fileName).zip pages).reverse.lookup "index.html").getD idx))) := by
  rw [entryAt_putTexts_name _ _ index_plain, lookup_siteTexts_of_ne _ _ _ _ (by decide)]
  cases ((lessons.map Lesson.fileName).zip pages).reverse.lookup "index.html" <;> rfl

theorem entryAt_siteTexts_lesson (hlen : pages.length = lessons.length) {l : Lesson}
    (hl : l ∈ lessons) :
    ∃ page, ((lessons.map Lesson.fileName).zip pages).reverse.lookup l.fileName = some page ∧
      (putTexts fs dir (siteTexts idx lessons pages manifest)).entryAt (dir ++ [l.fileName]) =
        some (.file (Utf8.encode page)) := by
  have hnames : ((lessons.map Lesson.fileName).zip pages).map Prod.fst = lessons.map Lesson.fileName :=
    List.map_fst_zip (by rw [List.length_map, hlen])
  have hmem : l.fileName ∈ ((lessons.map Lesson.fileName).zip pages).map Prod.fst := by
    rw [hnames]
    exact List.mem_map_of_mem hl
  obtain ⟨p, hp, hpname⟩ := List.mem_map.1 hmem
  have hsome : (((lessons.map Lesson.fileName).zip pages).reverse.lookup l.fileName).isSome :=
    List.lookup_isSome_iff.2 ⟨p, List.mem_reverse.2 hp, by simp [hpname]⟩
  obtain ⟨page, hpage⟩ := Option.isSome_iff_exists.1 hsome
  refine ⟨page, hpage, ?_⟩
  rw [entryAt_putTexts_name _ _ l.fileName_plain,
    lookup_siteTexts_of_ne _ _ _ _ l.fileName_ne_manifest, hpage]
  rfl

theorem entryAt_siteTexts_other {cs : List String}
    (h : ∀ name ∈ "index.html" :: "course.yaml" :: lessons.map Lesson.fileName,
      cs ≠ dir ++ [name]) :
    (putTexts fs dir (siteTexts idx lessons pages manifest)).entryAt cs = fs.entryAt cs := by
  refine entryAt_putTexts_of_ne _ _ fun t ht => h t.1 ?_
  simp only [siteTexts, List.mem_cons, List.mem_append, List.not_mem_nil, or_false] at ht
  rcases ht with (rfl | ht) | rfl
  · exact List.mem_cons_self
  · exact List.mem_cons_of_mem _ (List.mem_cons_of_mem _ (List.of_mem_zip ht).1)
  · exact List.mem_cons_of_mem _ List.mem_cons_self

end SiteTexts

open FileStore

/-! ## The steps that write -/

theorem createDirs_run {dir : String} {b b' : Builder} {u : Unit}
    (h : (createDirs dir).run b = .ok u b') :
    ∃ r fs, resolve dir = some r ∧ b.files.createDirsAt r.comps = .ok fs ∧
      b' = { b with files := fs } := by
  rcases hres : resolve dir with _ | r
  · simp [createDirs, FileStore.createDirs, hres, EStateM.run] at h
  · rcases hfs : b.files.createDirsAt r.comps with e | fs
    · simp [createDirs, FileStore.createDirs, hres, hfs, EStateM.run] at h
    · simp only [createDirs, FileStore.createDirs, hres, hfs, EStateM.run] at h
      cases h
      exact ⟨r, fs, rfl, hfs, rfl⟩

theorem writePage_run {dir name text path : String} {r : Route} {b b' : Builder}
    (hr : resolve dir = some r) (hname : PlainName name)
    (h : (writePage dir name text).run b = .ok path b') :
    path = join dir name ∧
      b' = { b with files := b.files.put (r.comps ++ [name]) (.file (Utf8.encode text)) } := by
  -- unfolded by delta: the equation lemma of the definition is slow to generate
  delta writePage at h
  simp only [EStateM.run] at h
  rcases hw : b.files.writeText (join dir name) text with e | fs
  · rw [hw] at h
    cases h
  · rw [hw] at h
    cases h
    exact ⟨rfl, by rw [write_eq_put (resolve_join hname hr) hw]⟩

/-- `pages` are the pages of the lessons `ls`, rendered from `b` on, each from the builder the
one before it left, and written under its lesson's name into the directory at `dir` before the
next is rendered; `b'` is the builder after the last. -/
inductive Renders (c : Course) (dir : List String) :
    Builder → List Lesson → List String → Builder → Prop
  | nil (b : Builder) : Renders c dir b [] [] b
  | cons {b b₁ b' : Builder} {l : Lesson} {ls : List Lesson} {page : String}
      {pages : List String} :
      (lessonPage c l).run b = .ok page b₁ →
      Renders c dir { b₁ with files := b₁.files.put (dir ++ [l.fileName]) (.file (Utf8.encode page)) }
        ls pages b' →
      Renders c dir b (l :: ls) (page :: pages) b'

theorem lessonPages_run {c : Course} {dir : String} {r : Route} (hr : resolve dir = some r) :
    ∀ (ls : List Lesson) (b b' : Builder) (paths : List String),
      (ls.mapM fun l => lessonPage c l >>= writePage dir l.fileName).run b = .ok paths b' →
      ∃ pages, Renders c r.comps b ls pages b' ∧ pages.length = ls.length ∧
        paths = ls.map (fun l => join dir l.fileName) ∧
        b'.files = putTexts b.files r.comps ((ls.map Lesson.fileName).zip pages)
  | [], b, b', paths, h => by
    cases h
    exact ⟨[], .nil b, rfl, rfl, rfl⟩
  | l :: ls, b, b', paths, h => by
    rw [List.mapM_cons] at h
    obtain ⟨path, b₂, hstep, h⟩ := run_bind_eq_ok h
    obtain ⟨page, b₁, hpage, hwrite⟩ := run_bind_eq_ok hstep
    obtain ⟨hpath, hb₂⟩ := writePage_run hr l.fileName_plain hwrite
    obtain ⟨paths', b₃, hrest, h⟩ := run_bind_eq_ok h
    obtain ⟨pages, hrenders, hlen, hpaths, hfiles⟩ := lessonPages_run hr ls _ _ _ hrest
    obtain ⟨hpaths', hb'⟩ := EStateM.Result.ok.inj h
    subst hb'
    have hkeep : b₁.files = b.files :=
      ((steady_files b.files).lessonPage c l b page b₁ rfl hpage).2
    rw [hb₂] at hrenders hfiles
    refine ⟨page :: pages, .cons hpage hrenders, by simp [hlen], ?_, ?_⟩
    · rw [← hpaths', hpath, hpaths, List.map_cons]
    · rw [hfiles, hkeep]
      rfl

/-- A build makes the output directory, renders the index page and writes it, then renders and
writes each lesson's page in course order, and writes the manifest: the files afterwards are
the store with the directory made and those texts written in that order. -/
theorem renderTo_run {c : Course} {dir : String} {b b' : Builder} {s : Summary}
    (h : (renderTo c dir).run b = .ok s b') :
    ∃ r fs idx b₁ pages b₂, resolve dir = some r ∧ b.files.createDirsAt r.comps = .ok fs ∧
      (indexPage c).run { b with files := fs } = .ok idx b₁ ∧
      Renders c r.comps
        { b₁ with files := fs.put (r.comps ++ ["index.html"]) (.file (Utf8.encode idx)) }
        c.lessons pages b₂ ∧
      pages.length = c.lessons.length ∧
      s = ⟨join dir "index.html", join dir "course.yaml",
        c.lessons.map fun l => join dir l.fileName⟩ ∧
      b'.files = putTexts fs r.comps (siteTexts idx c.lessons pages c.manifest) := by
  obtain ⟨u, b₀, hdirs, h⟩ := run_bind_eq_ok h
  obtain ⟨r, fs, hr, hfs, hb₀⟩ := createDirs_run hdirs
  rw [hb₀] at h
  obtain ⟨idx, b₁, hidx, h⟩ := run_bind_eq_ok h
  obtain ⟨pidx, b₂, hwidx, h⟩ := run_bind_eq_ok h
  obtain ⟨hpidx, hb₂⟩ := writePage_run hr index_plain hwidx
  obtain ⟨paths, b₃, hls, h⟩ := run_bind_eq_ok h
  obtain ⟨pages, hrenders, hlen, hpaths, hfiles⟩ := lessonPages_run hr _ _ _ _ hls
  obtain ⟨pman, b₄, hwman, h⟩ := run_bind_eq_ok h
  obtain ⟨hpman, hb₄⟩ := writePage_run hr manifest_plain hwman
  obtain ⟨hs, hb'⟩ := EStateM.Result.ok.inj h
  have hkeep : b₁.files = fs := ((steady_files fs).indexPage c _ idx b₁ rfl hidx).2
  rw [hb₂, hkeep] at hrenders hfiles
  refine ⟨r, fs, idx, b₁, pages, b₃, hr, hfs, hidx, hrenders, hlen, ?_, ?_⟩
  · rw [← hs, hpidx, hpman, hpaths]
  · rw [← hb', hb₄, hfiles]
    simp only [putTexts, siteTexts, List.foldl_cons, List.foldl_append, List.foldl_nil]

/-- Generating a site fails with an error about reading the course exactly when reading it
fails, and then the store comes back as it was. -/
theorem generate_eq_parse_error_iff (fs : FileStore) (path dir : String)
    (validator : Option Validator) (templateDir : Option String) (seed : UInt64) (e : ParseError) :
    generate fs path dir validator templateDir seed = (.error (.parse path e), fs) ↔
      Reader.parseFile fs path validator = .error e := by
  unfold generate
  rcases Reader.parseFile fs path validator with e' | course
  · simp
  · simp only [reduceCtorEq, iff_false]
    split <;> simp

/-- A build writes each page where its name says, a later page over an earlier one of the same
name. The summary names the index, the manifest and each lesson's page in the output directory,
in course order; the manifest file holds the manifest; each lesson's file holds the page of the
last lesson of its name; the index file holds the index page unless a lesson's page is also
named `index.html`, and then the page of the last such lesson; the directory and those above it
are directories; and nothing else in the store changes. The pages are those the build renders:
the index page first, then each lesson's page from the builder the one before it left. And
generating a site from a course file fails with a parse error exactly when reading it does. -/
theorem site_files_by_name (c : Course) (dir : String) (b : Builder) (s : Summary) (b' : Builder) :
    ((renderTo c dir).run b = .ok s b' →
      ∃ r fs idx b₁ pages b₂, resolve dir = some r ∧ b.files.createDirsAt r.comps = .ok fs ∧
        (indexPage c).run { b with files := fs } = .ok idx b₁ ∧
        Renders c r.comps
          { b₁ with files := fs.put (r.comps ++ ["index.html"]) (.file (Utf8.encode idx)) }
          c.lessons pages b₂ ∧
        s = ⟨join dir "index.html", join dir "course.yaml",
          c.lessons.map fun l => join dir l.fileName⟩ ∧
        b'.files.entryAt (r.comps ++ ["course.yaml"]) = some (.file (Utf8.encode c.manifest)) ∧
        (∀ l ∈ c.lessons, ∃ page,
          ((c.lessons.map Lesson.fileName).zip pages).reverse.lookup l.fileName = some page ∧
          b'.files.entryAt (r.comps ++ [l.fileName]) = some (.file (Utf8.encode page))) ∧
        b'.files.entryAt (r.comps ++ ["index.html"]) = some (.file (Utf8.encode
          ((((c.lessons.map Lesson.fileName).zip pages).reverse.lookup "index.html").getD idx))) ∧
        (∀ pre, pre <+: r.comps → b'.files.entryAt pre = some .dir) ∧
        ∀ cs, ¬ cs <+: r.comps →
          (∀ name ∈ "index.html" :: "course.yaml" :: c.lessons.map Lesson.fileName,
            cs ≠ r.comps ++ [name]) →
          b'.files.entryAt cs = b.files.entryAt cs) ∧
    ∀ (fs : FileStore) (path : String) (validator : Option Validator)
      (templateDir : Option String) (seed : UInt64) (e : ParseError),
      generate fs path dir validator templateDir seed = (.error (.parse path e), fs) ↔
        Reader.parseFile fs path validator = .error e := by
  refine ⟨fun h => ?_, fun fs path validator templateDir seed e =>
    generate_eq_parse_error_iff fs path dir validator templateDir seed e⟩
  obtain ⟨r, fs, idx, b₁, pages, b₂, hr, hfs, hidx, hrenders, hlen, hs, hfiles⟩ := renderTo_run h
  obtain ⟨hdirs, hother⟩ := createDirsAt_spec hfs
  refine ⟨r, fs, idx, b₁, pages, b₂, hr, hfs, hidx, hrenders, hs, ?_, fun l hl => ?_, ?_,
    fun pre hpre => ?_, fun cs hcs hnames => ?_⟩ <;> rw [hfiles]
  · exact entryAt_siteTexts_manifest ..
  · exact entryAt_siteTexts_lesson _ _ _ _ _ _ hlen hl
  · exact entryAt_siteTexts_index ..
  · -- the directory's prefixes are shorter than every name written into it
    rw [entryAt_siteTexts_other _ _ _ _ _ _ fun name _ heq => ?_]
    · exact hdirs pre hpre
    · have hlen := congrArg List.length heq
      have hle := hpre.length_le
      simp only [List.length_append, List.length_singleton] at hlen
      omega
  · rw [entryAt_siteTexts_other _ _ _ _ _ _ hnames]
    exact hother cs hcs

def indexLesson : Lesson := ⟨"", "Index", "", [], [], [], "M"⟩

/-- A course whose one lesson is titled `Index`. -/
def indexLessonCourse : Course := ⟨"c", "C", "", "", [], [⟨"", "M", 0, [indexLesson]⟩]⟩

/-- A builder whose template directory `t` has a base template showing only the page title. -/
def titleOnlyBuilder : Builder where
  files := ⟨[(["t"], .dir), (["t", "base.html"], .file "\x7b\x7btitle\x7d\x7d".toUTF8.toList)]⟩
  engine := { dir := some "t", useDefaults := false }
  rng := Random.Rng.ofSeed 0

/-- Built into `site`, the lesson's page is named `index.html` like the index page, so the
summary lists the index's path for it and the index file holds the lesson's page. -/
theorem index_lesson_replaces_index_page :
    ∃ s b' page b₀ b₁, (renderTo indexLessonCourse "site").run titleOnlyBuilder = .ok s b' ∧
      s.lessons = [s.index] ∧ (lessonPage indexLessonCourse indexLesson).run b₀ = .ok page b₁ ∧
      b'.files.entryAt ["site", "index.html"] = some (.file (Utf8.encode page)) := by
  have hok : (outcome ((renderTo indexLessonCourse "site").run titleOnlyBuilder)).toBool = true := by
    decide +kernel
  rcases hrun : (renderTo indexLessonCourse "site").run titleOnlyBuilder with ⟨s, b'⟩ | ⟨e, b'⟩
  swap
  · rw [hrun] at hok
    cases hok
  obtain ⟨r, fs, idx, b₁, pages, b₂, hr, -, -, hrenders, hs, -, -, hindex, -, -⟩ :=
    (site_files_by_name indexLessonCourse "site" titleOnlyBuilder s b').1 hrun
  have hname : indexLesson.fileName = "index.html" := by decide
  have hcomps : r.comps = ["site"] := by
    have hsite : (resolve "site").map Route.comps = some ["site"] := by decide +kernel
    rw [hr] at hsite
    exact Option.some.inj hsite
  rw [show indexLessonCourse.lessons = [indexLesson] from rfl] at hrenders hs hindex
  obtain _ | ⟨hpage, hrest⟩ := hrenders
  cases hrest
  refine ⟨s, b', _, _, _, rfl, by rw [hs]; simp only [List.map_cons, List.map_nil, hname], hpage,
    ?_⟩
  rw [show ["site", "index.html"] = r.comps ++ ["index.html"] by rw [hcomps]; rfl, hindex,
    List.map_singleton, hname]
  rfl

end Site

end Courseware
