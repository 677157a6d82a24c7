import Mathlib.Data.List.Forall2
import Courseware.Proofs.Site.Escaping
import Courseware.Proofs.Site.Run
import Courseware.Site.Build

/-!
# Slide numbers, links and counts

A lesson with `c` content blocks, `a` activities and `s` assessments has `n = c + a + s + 1`
slides: its content blocks, activities and assessments in that order, then the closing slide
(`slides_kinds`). The `i`-th slide is rendered through `partials/slide.html` with its kind, its
escaped id, the number `i + 1` and the total `n`, and with a link to the slide before it unless
it is the first and to the slide after it unless it is the last (`slideNav_eq`). The manifest
counts the same `n` slides (`lesson_slides_agree`).

The slides are rendered with whatever templates the builder's engine finds, so a slide is
described as the render of `partials/slide.html` by an engine of that setup with nothing cached,
from the builder's files: what every engine that keeps only what loading finds renders.
-/

namespace Courseware.Site

open Template Text

/-! ## The planned slides -/

theorem map_zipIdx_fst {α β : Type} (xs : List α) (g : α → β) :
    xs.zipIdx.map (fun x => g x.1) = xs.map g := by
  simpa only [List.map_map, Function.comp_def] using congrArg (List.map g) (List.zipIdx_map_fst 0 xs)

/-- A lesson's slides show its content blocks, activities and assessments in document order,
then the closing slide. -/
theorem slides_kinds (l : Lesson) :
    l.slides.map Slide.kind = l.content.map .content ++ l.activities.map .activity ++
      l.assessments.map .assessment ++ [.completion] := by
  unfold Lesson.slides
  rw [anchorAll_kinds]
  simp only [List.map_append, List.map_map, List.map_cons, List.map_nil, Function.comp_def,
    map_zipIdx_fst]

theorem slides_length (l : Lesson) :
    l.slides.length = l.content.length + l.activities.length + l.assessments.length + 1 := by
  have h := congrArg List.length (slides_kinds l)
  simp only [List.length_map, List.length_append, List.length_singleton] at h
  exact h

/-! ## Navigation -/

/-- The links of the `i`-th slide among slides with ids `ids`: back to the one before it, if
there is one, and on to the one after it, if there is one, with a blank between. -/
def navLinks (ids : List String) (i : Nat) : String :=
  let back := escapeHtml (ids.getD (i - 1) "")
  let next := escapeHtml (ids.getD (i + 1) "")
  " ".intercalate
    ((if 0 < i then [s!"<a class=\"btn\" href=\"#{back}\">Previous</a>"] else []) ++
      (if i + 1 < ids.length then [s!"<a class=\"btn\" href=\"#{next}\">Next</a>"] else []))

/-- A slide links back exactly when it is not the first, and on exactly when it is not the
last, each time to its neighbour's escaped id, and to nothing else. -/
theorem slideNav_eq (slides : List Slide) {i : Nat} (hi : i < slides.length) :
    slideNav slides i = navLinks (slides.map Slide.id) i := by
  have hid : ∀ j (hj : j < slides.length), (slides.map Slide.id).getD j "" = slides[j].id := by
    intro j hj
    rw [List.getD_eq_getElem?_getD, List.getElem?_map, List.getElem?_eq_getElem hj]
    rfl
  unfold slideNav navLinks
  dsimp only
  congr 2
  · -- the link back: none before the first slide
    cases i with
    | zero => rfl
    | succ j =>
      show (Option.map _ slides[j]?).toList = _
      rw [List.getElem?_eq_getElem (by omega), if_pos (Nat.succ_pos j), Nat.add_sub_cancel,
        hid j (by omega)]
      rfl
  · -- the link on: none after the last slide
    rw [List.length_map]
    by_cases hnext : i + 1 < slides.length
    · rw [List.getElem?_eq_getElem hnext, if_pos hnext, hid (i + 1) hnext]
      rfl
    · rw [List.getElem?_eq_none (by omega), if_neg hnext]
      rfl

/-! ## Rendering -/

def slideValues (slides : List Slide) (s : Slide) (i : Nat) (body : String) : Context :=
  [("slide_kind", s.kind.name), ("slide_id", escapeHtml s.id), ("slide_number", toString (i + 1)),
    ("slide_total", toString slides.length), ("slide_body", body),
    ("slide_nav", slideNav slides i)]

/-- Each rendered slide is `partials/slide.html` filled with its own values, in the order of the
planned slides, as an engine of the builder's setup renders it from the builder's files. -/
theorem slidesHtml_reads (course : Course) (l : Lesson) (files : FileStore) (setup : Engine) :
    Sat (Reads files setup)
      (List.Forall₂ (fun (x : Slide × Nat) page => ∃ body,
        outcome ((Engine.render files "partials/slide.html"
          (slideValues l.slides x.1 x.2 body)).run setup) = .ok page)
        l.slides.zipIdx)
      (slidesHtml course l) := by
  unfold slidesHtml
  refine Sat.mapM fun x _ => ?_
  exact Sat.bind ((steady_reads files setup).slideBody course l x.1) fun body _ =>
    (render_reads _ _).mono fun page h => ⟨body, h⟩

/-! ## Slides and manifest agree -/

theorem manifestEntry_eq (l : Lesson) :
    l.manifestEntry = .map [("title", .text l.title), ("module", .text l.moduleTitle),
      ("file", .text l.fileName),
      ("slides", .count (l.content.length + l.activities.length + l.assessments.length + 1))] := by
  rw [Lesson.manifestEntry, slides_length]

/-- The `n = c + a + s + 1` slides of a lesson are its content blocks, activities and
assessments in order and a closing slide; from any builder whose engine keeps only what loading
finds, they are rendered in order, the `i`-th as `partials/slide.html` filled with its kind,
escaped id, number `i + 1`, total `n`, and links to its neighbours; and the course's manifest
lists every lesson with that number of slides. -/
theorem lesson_slides_agree (c : Course) (l : Lesson) :
    l.slides.map Slide.kind = l.content.map .content ++ l.activities.map .activity ++
        l.assessments.map .assessment ++ [.completion] ∧
      c.manifest = Yaml.Value.document [("duration", .text c.duration), ("id", .text c.id),
        ("lessons", .seq (c.lessons.map fun l => .map [("title", .text l.title),
          ("module", .text l.moduleTitle), ("file", .text l.fileName),
          ("slides", .count (l.content.length + l.activities.length + l.assessments.length + 1))])),
        ("level", .text c.level), ("objectives", .seq (c.objectives.map .text)),
        ("title", .text c.title), ("total_lessons", .count c.lessonCount)] ∧
      ∀ b pages b', Engine.Coherent b.files b.engine → (slidesHtml c l).run b = .ok pages b' →
        pages.length = l.content.length + l.activities.length + l.assessments.length + 1 ∧
        ∀ i page, pages[i]? = some page → ∃ s body, l.slides[i]? = some s ∧
          outcome ((Engine.render b.files "partials/slide.html"
            [("slide_kind", s.kind.name), ("slide_id", escapeHtml s.id),
              ("slide_number", toString (i + 1)),
              ("slide_total",
                toString (l.content.length + l.activities.length + l.assessments.length + 1)),
              ("slide_body", body), ("slide_nav", navLinks (l.slides.map Slide.id) i)]).run
            b.engine.fresh) = .ok page := by
  refine ⟨slides_kinds l, by simp only [Course.manifest, funext manifestEntry_eq], ?_⟩
  intro b pages b' hb hr
  obtain ⟨hlen, hget⟩ := List.forall₂_iff_get.1
    (slidesHtml_reads c l b.files b.engine.fresh b pages b' ⟨rfl, rfl, hb⟩ hr).1
  rw [List.length_zipIdx] at hlen
  refine ⟨hlen ▸ slides_length l, fun i page hpage => ?_⟩
  have hi : i < pages.length := (List.getElem?_eq_some_iff.1 hpage).1
  have hs : i < l.slides.length := hlen ▸ hi
  obtain ⟨body, hbody⟩ := hget i (by rw [List.length_zipIdx]; exact hs) hi
  refine ⟨l.slides[i], body, List.getElem?_eq_getElem hs, ?_⟩
  simp only [List.get_eq_getElem, List.getElem_zipIdx, Nat.zero_add,
    (List.getElem?_eq_some_iff.1 hpage).2] at hbody
  rw [slideValues, slideNav_eq _ hs] at hbody
  simpa only [slides_length] using hbody

end Courseware.Site
