import Courseware.Proofs.Template.Fill

/-!
# Cycles of partials

Partials are told apart by their key, the name without any trailing `.html` (`partialKey`).
Following a reference loads the partial it names and includes the partials of its text in
turn, one level down, with its key added to the chain of partials being included; a reference
whose key is already in the chain is a cycle, checked before the depth limit.

`RefCycle` is that search as a relation: a path of places, one per level, from a reference to
one whose key comes back to the chain, with the keys the error names. When every file of the
store holds text (`FileStore.AllText`), loading a partial never fails, and including the
partials of a text fails exactly when the text has such a path, with the cycle error of its
first path in depth-first order (`renderString_cycle`). `FailsOnCycle` carries this through
the steps of the expansion.

Two partials are one when their keys are: `a` and `a.html.html` are read from two files but
share the key `a`, so a partial `a` that includes `a.html.html` is a cycle
(`suffixed_partial_cycle`).
-/

namespace Courseware

/-- A directory, or a file holding UTF-8 text. -/
def Entry.isText : Entry → Bool
  | .file bytes => (String.fromUTF8? (ByteArray.mk bytes.toArray)).isSome
  | .dir => true

namespace FileStore

/-- Every file of the store holds UTF-8 text. -/
def AllText (fs : FileStore) : Prop := ∀ p ∈ fs.entries, p.2.isText = true

instance (fs : FileStore) : Decidable fs.AllText :=
  inferInstanceAs (Decidable (∀ p ∈ fs.entries, p.2.isText = true))

theorem entryAt_file {fs : FileStore} {cs : List String} {bytes : List UInt8}
    (h : fs.entryAt cs = some (.file bytes)) : ∃ p ∈ fs.entries, p.2 = .file bytes := by
  unfold entryAt at h
  split at h
  · cases h
  · obtain ⟨p, hp, hb⟩ := Option.map_eq_some_iff.1 h
    exact ⟨p, List.mem_of_find?_eq_some hp, hb⟩

theorem lookup_file {fs : FileStore} {cs : List String} {bytes : List UInt8}
    (h : fs.lookup cs = .ok (.file bytes)) : fs.entryAt cs = some (.file bytes) := by
  unfold lookup at h
  dsimp only at h
  split at h
  · cases h
  · split at h
    · cases h
      assumption
    · cases h

theorem stat_file {fs : FileStore} {path : String} {bytes : List UInt8}
    (h : fs.stat path = .ok (.file bytes)) : ∃ cs, fs.lookup cs = .ok (.file bytes) := by
  unfold stat at h
  rcases hl : fs.locate path with x | ⟨cs, mustBeDir⟩ <;> rw [hl] at h
  · cases h
  · refine ⟨cs, ?_⟩
    simp only [except_ok_bind] at h
    rcases hc : fs.lookup cs with x | ⟨b | _⟩ <;> rw [hc] at h
    · cases h
    · cases mustBeDir
      · exact h
      · cases h
    · cases h

theorem isFile_stat {fs : FileStore} {path : String} (h : fs.isFile path = true) :
    ∃ bytes, fs.stat path = .ok (.file bytes) := by
  unfold isFile at h
  split at h
  · exact ⟨_, ‹_›⟩
  · cases h

theorem readText_ok {fs : FileStore} (hfs : fs.AllText) {path : String}
    (h : fs.isFile path = true) : ∃ text, fs.readText path = .ok text := by
  obtain ⟨bytes, hs⟩ := isFile_stat h
  obtain ⟨cs, hl⟩ := stat_file hs
  obtain ⟨p, hp, hb⟩ := entryAt_file (lookup_file hl)
  have htext := hfs p hp
  rw [hb, Entry.isText] at htext
  obtain ⟨text, ht⟩ := Option.isSome_iff_exists.1 htext
  refine ⟨text, ?_⟩
  simp only [readText, readBytes, hs, except_ok_bind, ht]
  rfl

end FileStore

namespace Template.Engine

variable {fs : FileStore} {s : Engine} {α β : Type}

/-! ## Loading from a store of text files -/

theorem readExternal_ok (hfs : fs.AllText) (rel : String) (e : Engine) :
    ∃ r, (readExternal fs rel).run e = .ok r e := by
  simp only [readExternal, EStateM.run_bind, EStateM.run_get]
  cases e.dir with
  | none => exact ⟨none, rfl⟩
  | some dir =>
    simp only
    by_cases hf : fs.isFile (FileStore.join dir rel) = true
    · obtain ⟨text, ht⟩ := FileStore.readText_ok hfs hf
      exact ⟨some text, by simp only [hf, ht]; rfl⟩
    · exact ⟨none, by simp only [hf]; rfl⟩

theorem findPartial_ok (hfs : fs.AllText) (e : Engine) (name : String) :
    ∃ r, findPartial fs e name = .ok r := by
  obtain ⟨r, hr⟩ := readExternal_ok hfs (FileStore.join "partials" (partialFile name)) e.fresh
  simp only [findPartial, loadPartial, EStateM.run_bind, EStateM.run_get, fresh_partials,
    List.lookup_nil, hr]
  cases r with
  | some text => exact ⟨some text, rfl⟩
  | none =>
    obtain ⟨r', hr'⟩ : ∃ r', (builtin ("partials/" ++ partialFile name)).run e.fresh =
        .ok r' e.fresh := by
      simp only [builtin, EStateM.run_bind, EStateM.run_get]
      split <;> exact ⟨_, rfl⟩
    simp only [EStateM.run_bind, hr']
    cases r' <;> exact ⟨_, rfl⟩

theorem loadPartial_run_ok {e : Engine} (h : Coherent fs e) (hs : e.fresh = s.fresh)
    {name : String} {res : Option String} (hres : findPartial fs s name = .ok res) :
    ∃ e', (loadPartial fs name).run e = .ok res e' ∧ Coherent fs e' ∧ e'.fresh = s.fresh := by
  obtain ⟨hmap, h', hs'⟩ := loadPartial_spec h name
  rw [findPartial_congr fs hs, hres] at hmap
  rcases hx : (loadPartial fs name).run e with ⟨r, e'⟩ | ⟨x, e'⟩ <;> rw [hx] at hmap h' hs' <;>
    cases hmap
  exact ⟨e', rfl, h', hs'.trans hs⟩

/-! ## Paths in depth-first order -/

/-- `p` comes no later than `q` in depth-first order: they are equal, or at their first
difference `p` turns to an earlier place, or `p` ends where `q` goes on. -/
def PathLe (p q : List Nat) : Prop := p = q ∨ List.Lex (· < ·) p q

theorem PathLe.refl (p : List Nat) : PathLe p p := Or.inl rfl

theorem PathLe.cons (i : Nat) {p q : List Nat} (h : PathLe p q) : PathLe (i :: p) (i :: q) :=
  h.imp (congrArg _) .cons

theorem PathLe.cons_lt {i j : Nat} (h : i < j) (p q : List Nat) : PathLe (i :: p) (j :: q) :=
  Or.inr (.rel h)

theorem PathLe.succ {i j : Nat} {p q : List Nat} (h : PathLe (i :: p) (j :: q)) :
    PathLe ((i + 1) :: p) ((j + 1) :: q) := by
  rcases h with h | h
  · cases h
    exact refl _
  · cases h with
    | cons h => exact Or.inr (.cons h)
    | rel h => exact Or.inr (.rel (Nat.succ_lt_succ h))

/-- A path into a list: the place of an item, then a path from that item. -/
def ListPath (F : α → List Nat → List String → Prop) (xs : List α) :
    List Nat → List String → Prop
  | [], _ => False
  | i :: path, names => ∃ x, xs[i]? = some x ∧ F x path names

section ListPath

variable {F : α → List Nat → List String → Prop}

@[simp] theorem listPath_nil_path (xs : List α) (names : List String) :
    ListPath F xs [] names ↔ False := Iff.rfl

@[simp] theorem listPath_nil (path : List Nat) (names : List String) :
    ListPath F [] path names ↔ False := by
  cases path <;> simp [ListPath]

@[simp] theorem listPath_cons_zero (x : α) (xs : List α) (path : List Nat) (names : List String) :
    ListPath F (x :: xs) (0 :: path) names ↔ F x path names := by
  simp [ListPath]

@[simp] theorem listPath_cons_succ (x : α) (xs : List α) (i : Nat) (path : List Nat)
    (names : List String) :
    ListPath F (x :: xs) ((i + 1) :: path) names ↔ ListPath F xs (i :: path) names := by
  simp [ListPath]

end ListPath

/-! ## Cycles -/

/-- A path of references from `r`, met with the keys `chain` being included and `d` more
levels allowed, that ends in a cycle error naming `names`. Either the key of `r` is in the
chain, or the partial `r` names is found and one of its references, at place `i` of its text,
starts such a path one level down. -/
inductive RefCycle (fs : FileStore) (s : Engine) :
    List String → Nat → Reference → List Nat → List String → Prop
  | back {chain : List String} {d : Nat} {r : Reference} :
      partialKey r.name ∈ chain → RefCycle fs s chain d r [] (chain ++ [partialKey r.name])
  | enter {chain : List String} {d : Nat} {r r' : Reference} {content : String} {i : Nat}
      {path : List Nat} {names : List String} :
      partialKey r.name ∉ chain → findPartial fs s r.name = .ok (some content) →
      (Pattern.cut partialRef content.toList)[i]? = some (.hit r') →
      RefCycle fs s (chain ++ [partialKey r.name]) d r' path names →
      RefCycle fs s chain (d + 1) r (i :: path) names

/-- The cycles met from a piece of text: none from a character. -/
def PieceCycle (fs : FileStore) (s : Engine) (chain : List String) (d : Nat) :
    Piece Reference → List Nat → List String → Prop
  | .char _ => fun _ _ => False
  | .hit r => RefCycle fs s chain d r

/-- The cycles met from a text: the place of a reference among its pieces, then a path from
that reference. -/
def TextCycle (fs : FileStore) (s : Engine) (chain : List String) (d : Nat) (text : List Char) :
    List Nat → List String → Prop :=
  ListPath (PieceCycle fs s chain d) (Pattern.cut partialRef text)

theorem refCycle_of_mem_iff {chain : List String} {d : Nat} {r : Reference}
    (hk : partialKey r.name ∈ chain) {path : List Nat} {names : List String} :
    RefCycle fs s chain d r path names ↔ path = [] ∧ names = chain ++ [partialKey r.name] := by
  constructor
  · intro hc
    cases hc with
    | back _ => exact ⟨rfl, rfl⟩
    | enter hk' => exact absurd hk hk'
  · rintro ⟨rfl, rfl⟩
    exact .back hk

theorem refCycle_zero {chain : List String} {r : Reference} (hk : partialKey r.name ∉ chain)
    (path : List Nat) (names : List String) : ¬ RefCycle fs s chain 0 r path names := by
  intro hc
  cases hc with
  | back hk' => exact hk hk'

/-- Below the depth limit, a reference whose key is new starts exactly the cycles of the
partial it names. -/
theorem refCycle_succ_iff {chain : List String} {d : Nat} {r : Reference}
    (hk : partialKey r.name ∉ chain) {path : List Nat} {names : List String} :
    RefCycle fs s chain (d + 1) r path names ↔
      ∃ content, findPartial fs s r.name = .ok (some content) ∧
        TextCycle fs s (chain ++ [partialKey r.name]) d content.toList path names := by
  constructor
  · intro hc
    cases hc with
    | back hk' => exact absurd hk' hk
    | enter _ hf hi hc => exact ⟨_, hf, _, hi, hc⟩
  · rintro ⟨content, hf, hc⟩
    match path, hc with
    | i :: path, ⟨.hit r', hi, hc⟩ => exact .enter hk hf hi hc

/-! ## Failing on the first cycle -/

/-- From every coherent engine of the setup `s`, `m` fails exactly when `C` has a path, and
then with the cycle error of a first path; otherwise it leaves a coherent engine of the
setup. -/
structure FailsOnCycle (fs : FileStore) (s : Engine) (m : TemplateM α)
    (C : List Nat → List String → Prop) : Prop where
  sound : ∀ e y e', Coherent fs e → e.fresh = s.fresh → m.run e = .error y e' →
    ∃ path names, y = .cycle names ∧ C path names ∧ ∀ path' names', C path' names' → PathLe path path'
  complete : ∀ e path names, Coherent fs e → e.fresh = s.fresh → C path names →
    ∃ y e', m.run e = .error y e'
  keeps : ∀ e a e', Coherent fs e → e.fresh = s.fresh → m.run e = .ok a e' →
    Coherent fs e' ∧ e'.fresh = s.fresh

namespace FailsOnCycle

variable {C C' : List Nat → List String → Prop}

theorem congr {m : TemplateM α} (h : FailsOnCycle fs s m C) (hC : ∀ p n, C p n ↔ C' p n) :
    FailsOnCycle fs s m C' := by
  refine ⟨fun e y e' he hs hr => ?_, fun e p n he hs hc => h.complete e p n he hs ((hC p n).2 hc),
    h.keeps⟩
  obtain ⟨path, names, hy, hc, hmin⟩ := h.sound e y e' he hs hr
  exact ⟨path, names, hy, (hC _ _).1 hc, fun p n hc' => hmin p n ((hC p n).2 hc')⟩

theorem pure (a : α) (hC : ∀ p n, ¬ C p n) : FailsOnCycle fs s (Pure.pure a) C :=
  ⟨fun _ _ _ _ _ hr => (by cases hr), fun _ p n _ _ hc => absurd hc (hC p n),
    fun _ _ _ he hs hr => by cases hr; exact ⟨he, hs⟩⟩

theorem bind_ok {m : TemplateM α} {a : α} {k : α → TemplateM β}
    (hm : ∀ e, Coherent fs e → e.fresh = s.fresh →
      ∃ e', m.run e = .ok a e' ∧ Coherent fs e' ∧ e'.fresh = s.fresh)
    (hk : FailsOnCycle fs s (k a) C) : FailsOnCycle fs s (m >>= k) C := by
  refine ⟨fun e y e'' he hs hr => ?_, fun e p n he hs hc => ?_, fun e b e'' he hs hr => ?_⟩
  · obtain ⟨e', hx, he', hs'⟩ := hm e he hs
    simp only [EStateM.run_bind, hx] at hr
    exact hk.sound e' y e'' he' hs' hr
  · obtain ⟨e', hx, he', hs'⟩ := hm e he hs
    simp only [EStateM.run_bind, hx]
    exact hk.complete e' p n he' hs' hc
  · obtain ⟨e', hx, he', hs'⟩ := hm e he hs
    simp only [EStateM.run_bind, hx] at hr
    exact hk.keeps e' b e'' he' hs' hr

theorem map_pure {m : TemplateM α} (hm : FailsOnCycle fs s m C) (g : α → β) :
    FailsOnCycle fs s (m >>= fun a => Pure.pure (g a)) C := by
  refine ⟨fun e y e' he hs hr => ?_, fun e p n he hs hc => ?_, fun e b e' he hs hr => ?_⟩
  · rcases run_bind_eq_error hr with hx | ⟨a, e'', -, hpure⟩
    · exact hm.sound e _ _ he hs hx
    · cases hpure
  · obtain ⟨y, e', hy⟩ := hm.complete e p n he hs hc
    exact ⟨y, e', by rw [EStateM.run_bind, hy]⟩
  · -- the value is only passed on, so the engine is the one the first step leaves
    obtain ⟨a, e'', hx, hpure⟩ := run_bind_eq_ok hr
    cases hpure
    exact hm.keeps e a _ he hs hx

theorem not_of_ok {m : TemplateM α} (h : FailsOnCycle fs s m C) {e e' : Engine} {a : α}
    (he : Coherent fs e) (hs : e.fresh = s.fresh) (hx : m.run e = .ok a e')
    (path : List Nat) (names : List String) : ¬ C path names := by
  intro hc
  obtain ⟨z, e'', hz⟩ := h.complete e path names he hs hc
  rw [hx] at hz
  cases hz

theorem back {chain : List String} {d : Nat} {r : Reference} (hk : partialKey r.name ∈ chain)
    (f : PUnit → TemplateM α) :
    FailsOnCycle fs s (throw (TemplateError.cycle (chain ++ [partialKey r.name])) >>= f)
      (RefCycle fs s chain d r) := by
  refine ⟨fun e y e' _ _ hr => ?_, fun e _ _ _ _ _ => ⟨_, _, rfl⟩, fun e b e' _ _ hr => by cases hr⟩
  cases hr
  refine ⟨[], _, rfl, .back hk, fun path' names' hc => ?_⟩
  rw [((refCycle_of_mem_iff hk).1 hc).1]
  exact PathLe.refl _

theorem load (hfs : fs.AllText) {chain : List String} {d : Nat} {r : Reference}
    (hk : partialKey r.name ∉ chain) {k : Option String → TemplateM α}
    (hsome : ∀ content, FailsOnCycle fs s (k (some content))
      (TextCycle fs s (chain ++ [partialKey r.name]) d content.toList))
    (hnone : FailsOnCycle fs s (k none) fun _ _ => False) :
    FailsOnCycle fs s (loadPartial fs r.name >>= k) (RefCycle fs s chain (d + 1) r) := by
  obtain ⟨res, hres⟩ := findPartial_ok hfs s r.name
  refine bind_ok (fun e he hs => loadPartial_run_ok he hs hres) ?_
  cases res with
  | none => exact hnone.congr fun p n => by simp [refCycle_succ_iff hk, hres]
  | some content => exact (hsome content).congr fun p n => by simp [refCycle_succ_iff hk, hres]

/-- A step per item, in order: the run fails on the first path through the items, where the
place of the item comes first. -/
theorem foldlM {f : β → α → TemplateM β} {F : α → List Nat → List String → Prop}
    (hf : ∀ out x, FailsOnCycle fs s (f out x) (F x)) :
    ∀ (xs : List α) (out : β), FailsOnCycle fs s (xs.foldlM f out) (ListPath F xs)
  | [], out => pure out fun p n => by simp
  | x :: xs, out => by
    rw [List.foldlM_cons]
    have ih := fun out' => foldlM hf xs out'
    refine ⟨fun e y e'' he hs hr => ?_, fun e path names he hs hc => ?_, fun e b e'' he hs hr => ?_⟩
    · rcases run_bind_eq_error hr with hx | ⟨out', e', hx, hr⟩
      · -- the first item fails: its first path comes before every path through the others
        obtain ⟨path, names, rfl, hc, hmin⟩ := (hf out x).sound e _ _ he hs hx
        refine ⟨0 :: path, names, rfl, (listPath_cons_zero _ _ _ _).2 hc, ?_⟩
        rintro (_ | ⟨_ | j, path'⟩) names' hc'
        · simp at hc'
        · exact (hmin path' names' ((listPath_cons_zero _ _ _ _).1 hc')).cons 0
        · exact PathLe.cons_lt (Nat.succ_pos j) _ _
      · -- the first item succeeds, so no path goes through it
        obtain ⟨he', hs'⟩ := (hf out x).keeps e out' e' he hs hx
        obtain ⟨_ | ⟨i, path⟩, names, rfl, hc, hmin⟩ := (ih out').sound e' y e'' he' hs' hr
        · simp at hc
        refine ⟨(i + 1) :: path, names, rfl, (listPath_cons_succ _ _ _ _ _).2 hc, ?_⟩
        rintro (_ | ⟨_ | j, path'⟩) names' hc'
        · simp at hc'
        · exact absurd ((listPath_cons_zero _ _ _ _).1 hc')
            ((hf out x).not_of_ok he hs hx path' names')
        · exact (hmin (j :: path') names' ((listPath_cons_succ _ _ _ _ _).1 hc')).succ
    · rw [EStateM.run_bind]
      rcases hx : (f out x).run e with ⟨out', e'⟩ | ⟨y', e'⟩
      · obtain ⟨he', hs'⟩ := (hf out x).keeps e out' e' he hs hx
        match path, hc with
        | [], hc => simp at hc
        | 0 :: path, hc =>
          exact absurd ((listPath_cons_zero _ _ _ _).1 hc) ((hf out x).not_of_ok he hs hx path names)
        | (i + 1) :: path, hc =>
          exact (ih out').complete e' (i :: path) names he' hs' ((listPath_cons_succ _ _ _ _ _).1 hc)
      · exact ⟨y', e', rfl⟩
    · obtain ⟨out', e', hx, hr⟩ := run_bind_eq_ok hr
      obtain ⟨he', hs'⟩ := (hf out x).keeps e out' e' he hs hx
      exact (ih out').keeps e' b e'' he' hs' hr

end FailsOnCycle

theorem expand_failsOnCycle (hfs : fs.AllText) (s : Engine) (d : Nat) :
    ∀ (chain : List String) (text : List Char),
      FailsOnCycle fs s (expand fs chain d text) (TextCycle fs s chain d text) := by
  induction d with
  | zero =>
    intro chain text
    rw [expand.eq_1]
    refine FailsOnCycle.foldlM (fun out piece => ?_) _ _
    cases piece with
    | char c => exact FailsOnCycle.pure _ fun _ _ h => h
    | hit r =>
      dsimp only
      split
      next hk => exact FailsOnCycle.back (by simpa using hk) _
      next hk => exact FailsOnCycle.pure _ (refCycle_zero (by simpa using hk))
  | succ d ih =>
    intro chain text
    rw [expand.eq_1]
    refine FailsOnCycle.foldlM (fun out piece => ?_) _ _
    cases piece with
    | char c => exact FailsOnCycle.pure _ fun _ _ h => h
    | hit r =>
      dsimp only
      split
      next hk => exact FailsOnCycle.back (by simpa using hk) _
      next hk =>
        exact FailsOnCycle.load hfs (by simpa using hk) (fun content => (ih _ _).map_pure _)
          (FailsOnCycle.pure _ fun _ _ h => h)

theorem renderString_failsOnCycle (hfs : fs.AllText) (s : Engine) (text : String)
    (ctx : Context) :
    FailsOnCycle fs s (renderString fs text ctx) (TextCycle fs s [] maxPartialDepth text.toList) :=
  (expand_failsOnCycle hfs s _ _ _).map_pure _

/-- When every file of the store holds text, rendering fails exactly when following partial
references from the text, within the depth limit, comes back to the key of a partial being
included; the error is then the cycle error of the first such path in depth-first order,
naming the keys along it. -/
theorem renderString_cycle (hfs : fs.AllText) {e : Engine} (he : Coherent fs e) (text : String)
    (ctx : Context) :
    ((∃ y, outcome ((renderString fs text ctx).run e) = .error y) ↔
        ∃ path names, TextCycle fs e [] maxPartialDepth text.toList path names) ∧
      ∀ y, outcome ((renderString fs text ctx).run e) = .error y →
        ∃ path names, y = .cycle names ∧ TextCycle fs e [] maxPartialDepth text.toList path names ∧
          ∀ path' names', TextCycle fs e [] maxPartialDepth text.toList path' names' →
            PathLe path path' := by
  have h := renderString_failsOnCycle hfs e text ctx
  refine ⟨⟨fun ⟨y, hy⟩ => ?_, fun ⟨path, names, hc⟩ => ?_⟩, fun y hy => ?_⟩
  · obtain ⟨e', hy⟩ := outcome_eq_error.1 hy
    obtain ⟨path, names, -, hc, -⟩ := h.sound e y e' he rfl hy
    exact ⟨path, names, hc⟩
  · obtain ⟨y, e', hy⟩ := h.complete e path names he rfl hc
    exact ⟨y, outcome_eq_error.2 ⟨e', hy⟩⟩
  · obtain ⟨e', hy⟩ := outcome_eq_error.1 hy
    exact h.sound e y e' he rfl hy

theorem eq_ok_of_toOption {ε : Type} {x : Except ε α} {a : α} (h : x.toOption = some a) :
    x = .ok a := by
  cases x <;> simp_all [Except.toOption]

/-- A template directory `t` whose partial `a` includes `a.html.html`, a partial of its own file
holding plain text. -/
def suffixStore : FileStore where
  entries := [(["t"], .dir), (["t", "partials"], .dir),
    (["t", "partials", "a.html"], .file "\x7b\x7b> a.html.html \x7d\x7d".toUTF8.toList),
    (["t", "partials", "a.html.html"], .file "done".toUTF8.toList)]

/-- The partials `a` and `a.html.html` are read from two files, and the second includes nothing;
but the two names share the key `a`, so rendering a reference to `a` fails with the cycle
`a -> a`. -/
theorem suffixed_partial_cycle :
    findPartial suffixStore { dir := some "t" } "a" =
        .ok (some "\x7b\x7b> a.html.html \x7d\x7d") ∧
      findPartial suffixStore { dir := some "t" } "a.html.html" = .ok (some "done") ∧
      outcome ((renderString suffixStore "\x7b\x7b> a \x7d\x7d" []).run { dir := some "t" }) =
        .error (.cycle ["a", "a"]) := by
  have ha : findPartial suffixStore { dir := some "t" } "a" =
      .ok (some "\x7b\x7b> a.html.html \x7d\x7d") := eq_ok_of_toOption (by decide +kernel)
  have hcut : Pattern.cut partialRef "\x7b\x7b> a \x7d\x7d".toList =
      [.hit ⟨"a", "\x7b\x7b> a \x7d\x7d".toList⟩] := by
    rw [Pattern.cut_eq_cutBounded _ _ _ (Nat.le_refl _)]
    rfl
  have hcut' : Pattern.cut partialRef "\x7b\x7b> a.html.html \x7d\x7d".toList =
      [.hit ⟨"a.html.html", "\x7b\x7b> a.html.html \x7d\x7d".toList⟩] := by
    rw [Pattern.cut_eq_cutBounded _ _ _ (Nat.le_refl _)]
    rfl
  have hkey : partialKey "a" = "a" := rfl
  have hkey' : partialKey "a.html.html" = "a" := rfl
  have hpath : ∀ path names, TextCycle suffixStore { dir := some "t" } [] maxPartialDepth
      "\x7b\x7b> a \x7d\x7d".toList path names ↔ path = [0, 0] ∧ names = ["a", "a"] := by
    intro path names
    rw [TextCycle, show maxPartialDepth = 9 + 1 from rfl, hcut]
    rcases path with _ | ⟨_ | i, path⟩
    · simp
    · rw [listPath_cons_zero]
      change RefCycle _ _ [] (9 + 1) ⟨"a", _⟩ path names ↔ _
      rw [refCycle_succ_iff (by simp), ha]
      simp only [Except.ok.injEq, Option.some.injEq, exists_eq_left', List.nil_append, hkey]
      rw [TextCycle, hcut']
      rcases path with _ | ⟨_ | j, path⟩
      · simp
      · rw [listPath_cons_zero]
        change RefCycle _ _ ["a"] 9 ⟨"a.html.html", _⟩ path names ↔ _
        rw [refCycle_of_mem_iff (by simp [hkey'])]
        simp [hkey']
      · simp
    · simp
  obtain ⟨hiff, hsound⟩ := renderString_cycle (by decide +kernel)
    (coherent_fresh suffixStore { dir := some "t" }) "\x7b\x7b> a \x7d\x7d" []
  obtain ⟨y, hy⟩ := hiff.2 ⟨_, _, (hpath _ _).2 ⟨rfl, rfl⟩⟩
  obtain ⟨path, names, rfl, hc, -⟩ := hsound y hy
  obtain ⟨-, rfl⟩ := (hpath _ _).1 hc
  exact ⟨ha, eq_ok_of_toOption (by decide +kernel), hy⟩

end Template.Engine

end Courseware
