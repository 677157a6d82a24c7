import Courseware.Proofs.Text.Anchor
import Courseware.Proofs.Site.Escaping
import Courseware.Proofs.Course.Layout
import Courseware.Site.Slides

/-!
# Progress keys

The pages hand the client two kinds of key to store progress under. A lesson is keyed by its
id or, without one, by the slug of its title, the same slug its page is named by; so lessons
without ids share a key exactly when they share a page (`lesson_keys_nodup_iff`), and two such
lessons with one title share both. An assessment is keyed by its id or, when that is blank, by
its slide's anchor id; anchors are handed out per lesson, so an assessment without an id has a
key no other slide of its lesson has, while one in another lesson may have the same.
-/

/-!
## Slide ids

The slides of a lesson have pairwise distinct anchor ids (`slides_ids_nodup`). So the id
attribute of each slide, and every link to it, names one slide of the page. An id can still be
empty. A label none of whose characters an anchor keeps has the empty base id, and the first
slide with such a label is handed that empty id. The numbered labels (`content 1`,
`activity 2`, …) and `complete` start with a letter that anchors keep. So an empty id comes only
from an activity's or an assessment's own id, one that is not blank (`slide_ids_distinct`). An
activity with the id `!!!` gets the empty id (`bang_activity_empty_anchor`).
-/

namespace Courseware

namespace Anchors

theorem nextFree_eq (base : String) :
    ∀ (fuel : Nat) (a : Anchors) (cand : String),
      (nextFree base fuel a cand).1 = cand ∨ ∃ n : Nat, (nextFree base fuel a cand).1 = base ++ "-" ++ toString n
  | 0, _, _ => .inl rfl
  | fuel + 1, a, cand => by
    unfold nextFree
    split
    · rcases nextFree_eq base fuel _ _ with h | h
      · exact .inr ⟨_, h⟩
      · exact .inr h
    · exact .inl rfl

theorem fresh_eq_empty {a : Anchors} {label : String} (h : (a.fresh label).1 = "") :
    anchorBase label = "" := by
  simp only [fresh] at h
  rcases nextFree_eq (anchorBase label) (a.counts.length + 1) a (anchorBase label) with hid | ⟨n, hid⟩
  · rw [← hid, h]
  · have hlen := congrArg String.length (hid.symm.trans h)
    simp only [String.length_append] at hlen
    have : "-".length = 1 := rfl
    have : "".length = 0 := rfl
    omega

end Anchors

theorem mem_anchorAll {s : Slide} :
    ∀ (a : Anchors) (items : List (String × SlideKind)), s ∈ (anchorAll a items).1 →
      ∃ (label : String) (a' : Anchors), (label, s.kind) ∈ items ∧ s.id = (a'.fresh label).1
  | _, [], h => absurd h List.not_mem_nil
  | a, (label, k) :: rest, h => by
    simp only [anchorAll, List.mem_cons] at h
    rcases h with rfl | h
    · exact ⟨label, a, List.mem_cons_self, rfl⟩
    · obtain ⟨label', a', hmem, hid⟩ := mem_anchorAll _ rest h
      exact ⟨label', a', List.mem_cons_of_mem _ hmem, hid⟩

theorem anchorBase_ne_empty {label : String} {c : Char} {rest : List Char}
    (hlabel : label.toList = c :: rest) (hascii : c.toNat < 0x80) (hlow : c.isUpper = false)
    (hword : wordChars.contains c = true) : anchorBase label ≠ "" := by
  have hsigma : c ≠ 'Σ' := fun hc => by rw [hc] at hascii; exact absurd hascii (by decide)
  have hlower : (Case.lowercase label).toList = c :: Case.lowerFrom [c] rest := by
    rw [Case.lowercase, String.toList_ofList, hlabel, Case.lowerFrom, if_neg hsigma,
      Case.lowerChar_ascii c hascii, Char.toLower_eq_of_not_isUpper (by rw [hlow]; decide)]
    rfl
  intro hempty
  have hnil := congrArg String.toList hempty
  rw [anchorBase, String.toList_ofList, hlower, String.toList_empty, List.filterMap_eq_nil_iff] at hnil
  have hfirst := hnil c List.mem_cons_self
  simp only [hword, Bool.or_true, if_true] at hfirst
  split at hfirst <;> cases hfirst

theorem numberedLabel_base_ne_empty {kind : String} {c : Char} {rest : List Char}
    (hkind : kind.toList = c :: rest) (hascii : c.toNat < 0x80) (hlow : c.isUpper = false)
    (hword : wordChars.contains c = true) (i : Nat) : anchorBase s!"{kind} {i + 1}" ≠ "" := by
  have hlabel : (s!"{kind} {i + 1}").toList = c :: (rest ++ " ".toList ++ (toString (i + 1)).toList) := by
    show (kind ++ " " ++ toString (i + 1)).toList = _
    rw [String.toList_append, String.toList_append, hkind]
    rfl
  exact anchorBase_ne_empty hlabel hascii hlow hword

set_option maxRecDepth 10000 in
theorem contentLabel_base_ne_empty (i : Nat) : anchorBase s!"content {i + 1}" ≠ "" := by
  have hlit : "content ".toList = 'c' :: "ontent ".toList := by decide
  have hlabel : (s!"content {i + 1}").toList = 'c' :: ("ontent ".toList ++ (toString (i + 1)).toList) := by
    show ("content " ++ toString (i + 1)).toList = _
    rw [String.toList_append, hlit]
    rfl
  exact anchorBase_ne_empty hlabel (by decide) (by decide) (by decide)

/-- The label of an activity or assessment: its own id, when that is not blank, or else a
numbered label, whose base id is not empty. -/
theorem slideLabel_base {id kind : String} {c : Char} {rest : List Char}
    (hkind : kind.toList = c :: rest) (hascii : c.toNat < 0x80) (hlow : c.isUpper = false)
    (hword : wordChars.contains c = true) (i : Nat) (h : anchorBase (slideLabel id kind i) = "") :
    (Text.trim id).isEmpty = false ∧ anchorBase id = "" := by
  unfold slideLabel at h
  split at h
  · exact absurd h (numberedLabel_base_ne_empty hkind hascii hlow hword i)
  · next hblank => exact ⟨Bool.eq_false_iff.2 hblank, h⟩

set_option maxRecDepth 10000 in
/-- The slides of a lesson have pairwise distinct ids, so each slide's id, and every link that
names it, picks out one slide. An id is empty only for a slide of an activity or assessment whose
own id is not blank yet keeps no character as an anchor; by distinctness, at most one slide of
the lesson has the empty id. -/
theorem slide_ids_distinct (l : Lesson) :
    (l.slides.map Slide.id).Nodup ∧
    ∀ s ∈ l.slides, s.id = "" →
      ∃ src, s.kind.sourceId = some src ∧ (Text.trim src).isEmpty = false ∧ anchorBase src = "" := by
  refine ⟨slides_ids_nodup l, fun s hs hid => ?_⟩
  unfold Lesson.slides at hs
  obtain ⟨label, a, hitem, hfresh⟩ := mem_anchorAll _ _ hs
  have hbase := Anchors.fresh_eq_empty (hfresh ▸ hid)
  simp only [List.append_assoc, List.mem_append, List.mem_map, List.mem_singleton] at hitem
  rcases hitem with ⟨⟨c, i⟩, -, heq⟩ | ⟨⟨act, i⟩, -, heq⟩ | ⟨⟨asm, i⟩, -, heq⟩ | heq <;>
    obtain ⟨rfl, hkind⟩ := Prod.mk.inj heq
  · exact absurd hbase (contentLabel_base_ne_empty i)
  · obtain ⟨hnb, hb⟩ := slideLabel_base (by decide : "activity".toList = 'a' :: "ctivity".toList)
      (by decide) (by decide) (by decide) i hbase
    exact ⟨act.id, by rw [← hkind]; rfl, hnb, hb⟩
  · obtain ⟨hnb, hb⟩ := slideLabel_base (by decide : "assessment".toList = 'a' :: "ssessment".toList)
      (by decide) (by decide) (by decide) i hbase
    exact ⟨asm.id, by rw [← hkind]; rfl, hnb, hb⟩
  · exact absurd hbase (by decide)

/-- A lesson whose one activity has the id `!!!`. -/
def bangLesson : Lesson := ⟨"", "L", "", [], [⟨"!!!", "", "", "", ""⟩], [], "M"⟩

set_option maxRecDepth 10000 in
/-- The id `!!!` is not blank, so it is the activity's label, and no character of it is kept:
the activity's slide gets the empty id. -/
theorem bang_activity_empty_anchor : bangLesson.slides.map Slide.id = ["", "complete"] := by
  decide

end Courseware

namespace Courseware

theorem Lesson.key_of_id_empty {l : Lesson} (h : l.id = "") : l.key = Text.fileSlug l.title := by
  simp [Lesson.key, h]

theorem Lesson.fileName_eq_key {l : Lesson} (h : l.id = "") : l.fileName = l.key ++ ".html" := by
  rw [key_of_id_empty h, fileName]

/-- Lessons without ids have distinct keys exactly when they have distinct pages. -/
theorem lesson_keys_nodup_iff {lessons : List Lesson} (h : ∀ l ∈ lessons, l.id = "") :
    (lessons.map Lesson.key).Nodup ↔ (lessons.map Lesson.fileName).Nodup := by
  have hpages : lessons.map Lesson.fileName = (lessons.map Lesson.key).map (· ++ ".html") := by
    rw [List.map_map]
    exact List.map_congr_left fun l hl => Lesson.fileName_eq_key (h l hl)
  rw [hpages, List.nodup_map_iff fun a b hab => (String.append_left_inj ".html").1 hab]

namespace Site

/-- The keys of a lesson's assessments, in the order of their slides. -/
def assessmentKeys (l : Lesson) : List String :=
  l.slides.filterMap fun s => match s.kind with
    | .assessment a => some (assessmentKey a s.id)
    | _ => none

theorem slideBody_assessment (c : Course) (l : Lesson) {s : Slide} {a : Assessment}
    (hs : s.kind = .assessment a) : slideBody c l s = assessmentHtml c.id a (assessmentKey a s.id) := by
  rw [slideBody.eq_def, hs]

theorem mem_assessmentKeys {l : Lesson} {key : String} (h : key ∈ assessmentKeys l) :
    ∃ s ∈ l.slides, ∃ a, s.kind = .assessment a ∧ key = assessmentKey a s.id := by
  obtain ⟨s, hs, hkey⟩ := List.mem_filterMap.1 h
  split at hkey
  · exact ⟨s, hs, _, ‹_›, (Option.some.inj hkey).symm⟩
  · cases hkey

theorem slideBody_blank_assessment (c : Course) (l : Lesson) {s : Slide} {a : Assessment}
    (hs : s.kind = .assessment a) (hblank : Text.isBlankText a.id = true) :
    slideBody c l s = assessmentHtml c.id a s.id := by
  rw [slideBody_assessment c l hs, assessmentKey, if_pos hblank]

/-- A course's lessons without ids have distinct keys exactly when they have distinct pages; and
in each lesson, the slide of an assessment without an id is keyed by its anchor id, which no other
slide of the lesson has. -/
theorem progress_keys_scoped (c : Course) :
    ((∀ l ∈ c.lessons, l.id = "") →
      ((c.lessons.map Lesson.key).Nodup ↔ (c.lessons.map Lesson.fileName).Nodup)) ∧
    ∀ l ∈ c.lessons, ∀ i j (hi : i < l.slides.length) (hj : j < l.slides.length) (a : Assessment),
      l.slides[i].kind = .assessment a → Text.isBlankText a.id = true → i ≠ j →
        slideBody c l l.slides[i] = assessmentHtml c.id a l.slides[i].id ∧
          l.slides[i].id ≠ l.slides[j].id := by
  refine ⟨lesson_keys_nodup_iff, fun l _ i j hi hj a hs hblank hij => ?_⟩
  refine ⟨slideBody_blank_assessment c l hs hblank, fun hid => hij ?_⟩
  have hi' : i < (l.slides.map Slide.id).length := by rwa [List.length_map]
  have hj' : j < (l.slides.map Slide.id).length := by rwa [List.length_map]
  have hids : (l.slides.map Slide.id)[i] = (l.slides.map Slide.id)[j] := by
    simpa only [List.getElem_map] using hid
  exact (List.getElem_inj (slides_ids_nodup l)).1 hids

/-- A course with two modules, each with a lesson titled `Intro` and no id. -/
def twoIntros : String :=
  "<course title=\"C\"><module title=\"A\"><lesson title=\"Intro\"/></module><module title=\"B\"><lesson title=\"Intro\"/></module></course>"

/-- A course with two lessons, each with one assessment and no id. -/
def twoQuizzes : String :=
  "<course title=\"C\"><module title=\"M\"><lesson title=\"A\"><assessment/></lesson><lesson title=\"B\"><assessment/></lesson></module></course>"

def twoQuizzesRoot : Xml.Element :=
  ⟨"course", [("title", "C")], [.element "module" [("title", "M")]
    [.element "lesson" [("title", "A")] [.element "assessment" [] []],
      .element "lesson" [("title", "B")] [.element "assessment" [] []]]]⟩

/-- A course with one lesson holding two assessments with the id `q`. -/
def sameIdQuizzes : String :=
  "<course title=\"C\"><module title=\"M\"><lesson title=\"L\"><assessment id=\"q\"/><assessment id=\"q\"/></lesson></module></course>"

def sameIdQuizzesRoot : Xml.Element :=
  ⟨"course", [("title", "C")], [.element "module" [("title", "M")]
    [.element "lesson" [("title", "L")]
      [.element "assessment" [("id", "q")] [], .element "assessment" [("id", "q")] []]]]⟩

set_option maxRecDepth 8000 in
theorem twoQuizzes_parse : Xml.parse twoQuizzes = .ok twoQuizzesRoot := by cbv

set_option maxRecDepth 8000 in
theorem sameIdQuizzes_parse : Xml.parse sameIdQuizzes = .ok sameIdQuizzesRoot := by cbv

set_option maxRecDepth 8000 in
/-- Keys meet across a course. The two lessons of `twoIntros`, one in each module, share the key
`intro` and the page `intro.html`; the id-less assessments of the two lessons of `twoQuizzes`
share the key `assessment-1`, the anchor of each one's slide; and the two assessments of the
one lesson of `sameIdQuizzes` share their id `q` as their key. -/
theorem progress_keys_collide :
    ((Reader.read Reader.inlineDocument twoIntros).toOption.map
        fun c => c.lessons.map fun l => (l.moduleTitle, l.key, l.fileName)) =
      some [("A", "intro", "intro.html"), ("B", "intro", "intro.html")] ∧
    ((Reader.read Reader.inlineDocument twoQuizzes).toOption.map
        fun c => c.lessons.map fun l => (l.title, assessmentKeys l)) =
      some [("A", ["assessment-1"]), ("B", ["assessment-1"])] ∧
    ((Reader.read Reader.inlineDocument sameIdQuizzes).toOption.map
        fun c => c.lessons.map assessmentKeys) = some [["q", "q"]] := by
  -- a passing score is a float, which only the kernel leaves unevaluated
  refine ⟨by cbv, ?_, ?_⟩
  · rw [Reader.read_of_parse twoQuizzes_parse]
    decide +kernel
  · rw [Reader.read_of_parse sameIdQuizzes_parse]
    decide +kernel

end Site

end Courseware
