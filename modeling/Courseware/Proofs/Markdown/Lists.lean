import Mathlib
import Courseware.Markdown.Block

/-!
# Lists of items

Rendered markdown is a list of blocks, and `wrapItems` wraps its list items in lists. The blocks
fall into maximal runs of one kind, items or not (`lineRuns`, Mathlib's `List.splitBy`): the runs
join to the blocks, none is empty, each holds blocks of one kind, and each ends on a block of
another kind than the next one starts with.

The wrapper writes each run of items between one `<ul>` and one `</ul>` and every other run as it
stands, and adds nothing else (`wrapItems_encloses_item_runs`). It walks the blocks with one bit of
state, whether a list is open; the three facts it rests on are that a run of the open state's
kind passes through (`wrapItems_append_run`), that an item opens a list (`wrapItems_open`), and
that anything else, or the end, closes one (`wrapItems_close`).
-/

namespace Courseware.Markdown

def isItemLine (b : String) : Bool := b.startsWith "<li>"

def sameKind (a b : String) : Bool := isItemLine a == isItemLine b

/-- The maximal runs of blocks of one kind, in order. -/
def lineRuns (bs : List String) : List (List String) := bs.splitBy sameKind

/-- A run as the wrapper writes it: a run of items inside one list, any other run as it is. -/
def encloseRun (run : List String) : List String :=
  if run.head?.any isItemLine then "<ul>" :: run ++ ["</ul>"] else run

/-! ## One step of the wrapper -/

/-- Blocks of the kind the state expects pass through: items inside an open list, other blocks
outside one. -/
theorem wrapItems_append_run {inList : Bool} :
    ∀ {run : List String} (rest : List String), (∀ b ∈ run, isItemLine b = inList) →
      wrapItems (run ++ rest) inList = run ++ wrapItems rest inList
  | [], _, _ => rfl
  | b :: run, rest, h => by
    have hb : b.startsWith "<li>" = inList := h b List.mem_cons_self
    have ih := wrapItems_append_run rest fun c hc => h c (List.mem_cons_of_mem b hc)
    cases inList <;> simp [wrapItems, hb, ih]

/-- An item met outside a list opens one. -/
theorem wrapItems_open {b : String} (hb : isItemLine b = true) (rest : List String) :
    wrapItems (b :: rest) false = "<ul>" :: wrapItems (b :: rest) true := by
  have hb' : b.startsWith "<li>" = true := hb
  simp [wrapItems, hb']

/-- Inside a list, the end of the blocks or a block that is no item closes it. -/
theorem wrapItems_close {rest : List String} (h : ∀ b ∈ rest.head?, isItemLine b = false) :
    wrapItems rest true = "</ul>" :: wrapItems rest false := by
  cases rest with
  | nil => rfl
  | cons b rest =>
    have hb : b.startsWith "<li>" = false := h b rfl
    simp [wrapItems, hb]

/-! ## Runs -/

theorem kind_eq_head_of_isChain :
    ∀ {run : List String} {a : String}, (a :: run).IsChain (fun x y => sameKind x y = true) →
      ∀ b ∈ a :: run, isItemLine b = isItemLine a
  | [], _, _, b, hb => by rw [List.mem_singleton.1 hb]
  | c :: run, a, h, b, hb => by
    rw [List.isChain_cons_cons] at h
    have hac : isItemLine a = isItemLine c := by simpa [sameKind] using h.1
    rcases List.mem_cons.1 hb with rfl | hb
    · rfl
    · rw [kind_eq_head_of_isChain h.2 b hb, hac]

/-- Laid end to end, runs that alternate in kind are wrapped one by one: each run of items in
its own list. -/
theorem wrapItems_flatten :
    ∀ {runs : List (List String)}, [] ∉ runs →
      (∀ run ∈ runs, run.IsChain fun x y => sameKind x y = true) →
      runs.IsChain (fun r s => ∃ hr hs, sameKind (r.getLast hr) (s.head hs) = false) →
      wrapItems runs.flatten false = runs.flatMap encloseRun
  | [], _, _, _ => rfl
  | run :: runs, hne, hruns, hnext => by
    obtain ⟨a, run', rfl⟩ := List.exists_cons_of_ne_nil fun h => hne (h ▸ List.mem_cons_self)
    have hkind := kind_eq_head_of_isChain (hruns _ List.mem_cons_self)
    have ih := wrapItems_flatten (fun h => hne (List.mem_cons_of_mem _ h))
      (fun r hr => hruns r (List.mem_cons_of_mem _ hr)) hnext.tail
    rw [List.flatten_cons, List.flatMap_cons]
    cases ha : isItemLine a with
    | false =>
      rw [wrapItems_append_run _ fun b hb => (hkind b hb).trans ha, ih]
      simp [encloseRun, ha]
    | true =>
      have hclose : ∀ b ∈ runs.flatten.head?, isItemLine b = false := by
        cases runs with
        | nil => simp
        | cons s runs =>
          obtain ⟨c, s', rfl⟩ := List.exists_cons_of_ne_nil fun h =>
            hne (h ▸ List.mem_cons_of_mem _ List.mem_cons_self)
          obtain ⟨hr, hs, hdiff⟩ := (List.isChain_cons_cons.1 hnext).1
          have hlast := hkind _ (List.getLast_mem hr)
          intro b hb
          simp only [List.flatten_cons, List.cons_append, List.head?_cons, Option.mem_def,
            Option.some.injEq] at hb
          subst hb
          simp only [sameKind, List.head_cons, hlast, ha, beq_eq_false_iff_ne] at hdiff
          simpa using hdiff.symm
      rw [List.cons_append, wrapItems_open ha, ← List.cons_append,
        wrapItems_append_run _ fun b hb => (hkind b hb).trans ha, wrapItems_close hclose, ih]
      simp [encloseRun, ha]

/-! ## The wrapper -/

theorem wrapItems_eq_flatMap_lineRuns (bs : List String) :
    wrapItems bs false = (lineRuns bs).flatMap encloseRun := by
  conv_lhs => rw [← List.flatten_splitBy sameKind bs]
  exact wrapItems_flatten (List.nil_notMem_splitBy sameKind bs)
    (fun _ hrun => List.isChain_of_mem_splitBy hrun) (List.isChain_getLast_head_splitBy sameKind bs)

/-- The wrapper encloses each maximal run of list items in exactly one `<ul>` … `</ul>` pair and
adds nothing else: its result is the runs in order, each run of items between one `<ul>` and one
`</ul>` and every other run as it stands. The runs are the blocks laid end to end; none is empty,
each holds blocks of one kind, and each ends on a block of another kind than the next begins
with, so that no run could be longer. -/
theorem wrapItems_encloses_item_runs (bs : List String) :
    wrapItems bs false = (lineRuns bs).flatMap encloseRun ∧
      (lineRuns bs).flatten = bs ∧ [] ∉ lineRuns bs ∧
      (∀ run ∈ lineRuns bs, ∀ a ∈ run, ∀ b ∈ run, isItemLine a = isItemLine b) ∧
      (lineRuns bs).IsChain fun r s =>
        ∃ hr hs, isItemLine (r.getLast hr) ≠ isItemLine (s.head hs) := by
  have hne := List.nil_notMem_splitBy sameKind bs
  have hruns : ∀ run ∈ lineRuns bs, run.IsChain fun x y => sameKind x y = true :=
    fun _ hrun => List.isChain_of_mem_splitBy hrun
  have hnext := List.isChain_getLast_head_splitBy sameKind bs
  refine ⟨wrapItems_eq_flatMap_lineRuns bs, List.flatten_splitBy _ _, hne, ?_, ?_⟩
  · intro run hrun a ha b hb
    obtain ⟨c, run', rfl⟩ := List.exists_cons_of_ne_nil (List.ne_nil_of_mem_splitBy hrun)
    rw [kind_eq_head_of_isChain (hruns _ hrun) a ha, kind_eq_head_of_isChain (hruns _ hrun) b hb]
  · exact hnext.imp fun r s ⟨hr, hs, h⟩ => ⟨hr, hs, by simpa [sameKind] using h⟩

example : wrapItems ["<li>one</li>", "<li>two</li>", "<p>break</p>", "<li>three</li>"] false =
    ["<ul>", "<li>one</li>", "<li>two</li>", "</ul>", "<p>break</p>", "<ul>", "<li>three</li>",
      "</ul>"] := by
  decide +kernel

end Courseware.Markdown
