import Mathlib
import Courseware.Site.Slides

/-!
# Anchor ids are handed out once

`Anchors.fresh` tries the base id of a label and then its repeats `base-1`, `base-2`, …,
counting on from the repeats already counted under the base, until one has not been handed out.
The candidates it tries are all different, and each one found taken is one of the ids handed out
(`Searching`, kept by each step of the search), so with one try more than there are such ids it
always reaches a free one (`nextFree_free`).
Hence every id `fresh` returns is new (`fresh_new`), the ids of a lesson's slides are pairwise
distinct (`slides_ids_nodup`), and each slide's id differs from the id of every other slide.
-/

namespace Courseware

namespace Anchors

def ids (a : Anchors) : List String := a.counts.map Prod.fst

theorem taken_iff (a : Anchors) (id : String) : a.taken id = true ↔ id ∈ a.ids := by
  simp [taken, ids]

@[simp] theorem ids_setCount (a : Anchors) (base : String) (n : Nat) :
    (a.setCount base n).ids = a.ids := by
  simp only [ids, setCount, List.map_map]
  congr 1
  funext p
  simp only [Function.comp_apply]
  split <;> rfl

theorem count_setCount {a : Anchors} {base : String} (h : base ∈ a.ids) (n : Nat) :
    (a.setCount base n).count base = n := by
  obtain ⟨p, hp, rfl⟩ := List.mem_map.1 h
  have hfind : ((a.setCount p.1 n).counts.find? (·.1 == p.1)).map (·.2) = some n := by
    obtain ⟨q, hq, hfound⟩ : ∃ q, (a.setCount p.1 n).counts.find? (·.1 == p.1) = some q ∧ q.2 = n := by
      have hex : ∃ q ∈ (a.setCount p.1 n).counts, (q.1 == p.1) = true :=
        ⟨(p.1, n), List.mem_map.2 ⟨p, hp, by simp⟩, by simp⟩
      obtain ⟨q, hq⟩ := Option.isSome_iff_exists.1 (List.find?_isSome.2 hex)
      refine ⟨q, hq, ?_⟩
      obtain ⟨r, -, rfl⟩ := List.mem_map.1 (List.mem_of_find?_eq_some hq)
      have hkey := List.find?_some hq
      by_cases hr : r.1 == p.1 <;> simp_all
    rw [hq, Option.map_some, hfound]
  simp only [count, hfind, Option.getD_some]

theorem repeat_ne_base (base : String) (k : Nat) : base ++ "-" ++ toString k ≠ base := by
  intro h
  have := congrArg String.length h
  simp only [String.length_append] at this
  have : "-".length = 1 := rfl
  omega

theorem repeat_inj {base : String} {i j : Nat}
    (h : base ++ "-" ++ toString i = base ++ "-" ++ toString j) : i = j := by
  have hl := congrArg String.toList h
  simp only [String.toList_append, List.append_assoc, List.append_cancel_left_eq] at hl
  exact Nat.repr_inj.1 (String.toList_injective hl)

theorem nextFree_ids (base : String) :
    ∀ (fuel : Nat) (a : Anchors) (cand : String), (nextFree base fuel a cand).2.ids = a.ids
  | 0, _, _ => rfl
  | fuel + 1, a, cand => by
    unfold nextFree
    split
    · rw [nextFree_ids base fuel, ids_setCount]
    · rfl

/-- What the search for a free repeat keeps. The candidates found taken so far (`tried`) are
distinct and handed out; the candidate is not among them; it is the base, or the base was handed
out; and no repeat above the count is among them or is the candidate. -/
structure Searching (a : Anchors) (base cand : String) (tried : List String) : Prop where
  nodup : tried.Nodup
  handed_out : ∀ t ∈ tried, t ∈ a.ids
  cand_not_tried : cand ∉ tried
  base_or_handed_out : cand = base ∨ base ∈ a.ids
  above_count : ∀ j, a.count base < j →
    base ++ "-" ++ toString j ∉ tried ∧ base ++ "-" ++ toString j ≠ cand

theorem Searching.start (a : Anchors) (base : String) : Searching a base base [] :=
  ⟨List.nodup_nil, by simp, by simp, .inl rfl, fun j _ => ⟨by simp, repeat_ne_base _ j⟩⟩

/-- A candidate found taken joins those tried, and the next repeat above the count becomes the
candidate. -/
theorem Searching.step {a : Anchors} {base cand : String} {tried : List String}
    (h : Searching a base cand tried) (htaken : a.taken cand = true) :
    Searching (a.setCount base (a.count base + 1)) base
      (base ++ "-" ++ toString (a.count base + 1)) (cand :: tried) := by
  have hmem : cand ∈ a.ids := (taken_iff a cand).1 htaken
  have hbase : base ∈ a.ids := by
    rcases h.base_or_handed_out with rfl | h
    · exact hmem
    · exact h
  have hcount := count_setCount hbase (a.count base + 1)
  refine ⟨List.nodup_cons.2 ⟨h.cand_not_tried, h.nodup⟩, ?_, ?_, .inr (by rwa [ids_setCount]), ?_⟩
  · intro t ht
    rw [ids_setCount]
    rcases List.mem_cons.1 ht with rfl | ht
    · exact hmem
    · exact h.handed_out t ht
  · obtain ⟨hnot, hne⟩ := h.above_count (a.count base + 1) (Nat.lt_succ_self _)
    intro hin
    rcases List.mem_cons.1 hin with hin | hin
    · exact hne hin
    · exact hnot hin
  · -- the repeats above the new count were above the old one, and differ from the new candidate
    intro j hj
    rw [hcount] at hj
    obtain ⟨hnot, hne⟩ := h.above_count j (by omega)
    refine ⟨fun hin => ?_, fun heq => by have := repeat_inj heq; omega⟩
    rcases List.mem_cons.1 hin with hin | hin
    · exact hne hin
    · exact hnot hin

/-- While the fuel left and the candidates tried outnumber the ids handed out, the search returns
a free id. -/
theorem nextFree_free (base : String) :
    ∀ (fuel : Nat) (a : Anchors) (cand : String) (tried : List String),
      Searching a base cand tried → a.ids.length < fuel + tried.length →
        (nextFree base fuel a cand).1 ∉ a.ids
  | 0, a, _, tried, h, hlen => by
    -- no fuel: the candidates tried would outnumber the ids they are among
    have hle : tried.length ≤ a.ids.length := (h.nodup.subperm h.handed_out).length_le
    omega
  | fuel + 1, a, cand, tried, h, hlen => by
    unfold nextFree
    split
    · next htaken =>
      rw [← ids_setCount a base (a.count base + 1)]
      refine nextFree_free base fuel _ _ (cand :: tried) (h.step htaken) ?_
      rw [ids_setCount, List.length_cons]
      omega
    · next hfree =>
      intro hmem
      exact hfree ((taken_iff a cand).2 hmem)

/-- A new id is none of those handed out, and is handed out with them. -/
theorem fresh_new (a : Anchors) (label : String) :
    (a.fresh label).1 ∉ a.ids ∧ (a.fresh label).2.ids = a.ids ++ [(a.fresh label).1] := by
  have hfree := nextFree_free (anchorBase label) (a.counts.length + 1) a (anchorBase label) []
    (Searching.start a _) (by simp [ids])
  refine ⟨hfree, ?_⟩
  simp only [fresh, ids, List.map_append, List.map_cons, List.map_nil]
  rw [← ids, nextFree_ids]
  rfl

end Anchors

/-- The slides of a run of `anchorAll` have ids none of which was handed out before, and no two
alike; afterwards they are handed out too. -/
theorem anchorAll_ids (a : Anchors) : ∀ items : List (String × SlideKind),
    (anchorAll a items).2.ids = a.ids ++ (anchorAll a items).1.map Slide.id ∧
      (a.ids.Nodup → (a.ids ++ (anchorAll a items).1.map Slide.id).Nodup)
  | [] => by simp [anchorAll]
  | (label, k) :: rest => by
    obtain ⟨hnew, hids⟩ := Anchors.fresh_new a label
    obtain ⟨hrest, hnodup⟩ := anchorAll_ids (a.fresh label).2 rest
    simp only [anchorAll, List.map_cons]
    refine ⟨by rw [hrest, hids, List.append_assoc, List.singleton_append], fun h => ?_⟩
    have := hnodup (by
      rw [hids]
      exact List.nodup_append.2 ⟨h, List.nodup_singleton _,
        fun x hx y hy hxy => hnew (by rw [List.mem_singleton.1 hy] at hxy; exact hxy ▸ hx)⟩)
    rwa [hids, List.append_assoc, List.singleton_append] at this

/-- The slides of a lesson have pairwise distinct ids. -/
theorem slides_ids_nodup (l : Lesson) : (l.slides.map Slide.id).Nodup := by
  unfold Lesson.slides
  exact (List.nodup_append.1 ((anchorAll_ids ({} : Anchors) _).2 List.nodup_nil)).2.1

end Courseware
