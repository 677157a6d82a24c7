import Mathlib
import Courseware.FileStore.Basic

/-!
# What writing changes in a store

A store is read through `entryAt`, the entry at exact components. `put` sets one entry and
leaves every other (`entryAt_put_self`, `entryAt_put_of_ne`); a write that succeeds is a `put`
of a file at the components its path resolves to (`write_eq_put`); `createDirsAt` leaves a
directory at every prefix of its components and every other entry as it was
(`createDirsAt_spec`).

A plain name (no `/`, not empty, `.` or `..`) joined to a directory path resolves to the
directory's components and then the name, passing the directories the directory's path passes
(`resolve_join`).
-/

namespace Courseware.FileStore

/-! ## Setting one entry -/

theorem entryAt_put_self (fs : FileStore) {cs : List String} (e : Entry) (h : isBase cs = false) :
    (fs.put cs e).entryAt cs = some e := by
  have hnone : (fs.entries.filter (·.1 != cs)).find? (·.1 == cs) = none := by
    rw [List.find?_eq_none]
    intro p hp
    have := (List.mem_filter.1 hp).2
    simpa using this
  simp only [entryAt, h, put, List.find?_append, hnone, Option.none_or]
  simp

theorem entryAt_put_of_ne (fs : FileStore) {cs cs' : List String} (e : Entry) (h : cs' ≠ cs) :
    (fs.put cs e).entryAt cs' = fs.entryAt cs' := by
  have hsame : (fs.entries.filter (·.1 != cs)).find? (·.1 == cs') = fs.entries.find? (·.1 == cs') := by
    rw [List.find?_filter]
    congr 1
    funext p
    by_cases hp : p.1 = cs' <;> simp [hp, h]
  simp only [entryAt, put, List.find?_append, hsame]
  simp [Ne.symm h]

theorem entryAt_put_dir (fs : FileStore) (cs : List String) : (fs.put cs .dir).entryAt cs = some .dir := by
  by_cases h : isBase cs = true
  · simp [entryAt, h]
  · exact entryAt_put_self fs .dir (by simpa using h)

/-! ## Writing a file -/

/-- A write that succeeds puts the file at the components its path resolves to. -/
theorem write_eq_put {fs fs' : FileStore} {path : String} {bytes : List UInt8} {r : Route}
    (hr : resolve path = some r) (h : fs.write path bytes = .ok fs') :
    fs' = fs.put r.comps (.file bytes) := by
  rcases hloc : fs.locate path with e | ⟨cs, mustBeDir⟩
  · simp only [write, hloc] at h
    cases h
  · have hcs : cs = r.comps := by
      simp only [locate, hr] at hloc
      split at hloc <;> cases hloc
      rfl
    subst hcs
    simp only [write, hloc, bind, Except.bind] at h
    split at h
    · cases h
    · split at h
      · cases h
      · cases h
      · split at h
        · cases h
        · split at h
          · cases h
          · cases h
            rfl

/-! ## Making directories -/

theorem dir_step {p : List String} {fs fs' : FileStore}
    (h : (fs' = fs ∧ fs.entryAt p = some .dir) ∨ fs' = fs.put p .dir) :
    fs'.entryAt p = some .dir ∧
      (∀ other, fs.entryAt other = some .dir → fs'.entryAt other = some .dir) ∧
      ∀ other, other ≠ p → fs'.entryAt other = fs.entryAt other := by
  rcases h with ⟨rfl, hdir⟩ | rfl
  · exact ⟨hdir, fun _ h => h, fun _ _ => rfl⟩
  · refine ⟨entryAt_put_dir _ _, fun other h => ?_, fun other ho => entryAt_put_of_ne _ _ ho⟩
    by_cases ho : other = p
    · rw [ho, entryAt_put_dir]
    · rw [entryAt_put_of_ne _ _ ho, h]

theorem foldlM_makes_dirs {cs : List String} {f : FileStore → Nat → Except IoError FileStore}
    (hf : ∀ fs i fs', f fs i = .ok fs' →
      (fs' = fs ∧ fs.entryAt (cs.take (i + 1)) = some .dir) ∨ fs' = fs.put (cs.take (i + 1)) .dir) :
    ∀ (is : List Nat) (fs fs' : FileStore), is.foldlM f fs = .ok fs' →
      (∀ i ∈ is, fs'.entryAt (cs.take (i + 1)) = some .dir) ∧
      (∀ other, fs.entryAt other = some .dir → fs'.entryAt other = some .dir) ∧
      (∀ other, (∀ i ∈ is, other ≠ cs.take (i + 1)) → fs'.entryAt other = fs.entryAt other)
  | [], fs, fs', h => by
    cases h
    exact ⟨by simp, fun _ h => h, fun _ _ => rfl⟩
  | i :: is, fs, fs', h => by
    rw [List.foldlM_cons] at h
    rcases hstep : f fs i with e | fs₁
    · rw [hstep] at h
      cases h
    rw [hstep] at h
    obtain ⟨hnew, hkeep, hsame⟩ := foldlM_makes_dirs hf is fs₁ fs' h
    have hfirst := dir_step (hf fs i fs₁ hstep)
    refine ⟨fun j hj => ?_, fun other h => hkeep other (hfirst.2.1 other h), fun other ho => ?_⟩
    · rcases List.mem_cons.1 hj with rfl | hj
      · exact hkeep _ hfirst.1
      · exact hnew j hj
    · rw [hsame other fun j hj => ho j (List.mem_cons_of_mem _ hj)]
      exact hfirst.2.2 other (ho i List.mem_cons_self)

/-- Making the directories of components that succeeds leaves a directory at each of their
prefixes and every entry elsewhere as it was. -/
theorem createDirsAt_spec {fs fs' : FileStore} {cs : List String} (h : fs.createDirsAt cs = .ok fs') :
    (∀ pre, pre <+: cs → fs'.entryAt pre = some .dir) ∧
      ∀ other, ¬ other <+: cs → fs'.entryAt other = fs.entryAt other := by
  obtain ⟨hnew, -, hsame⟩ := @foldlM_makes_dirs cs _ (fun fs i fs' hstep => by
    simp only at hstep
    split at hstep
    · cases hstep
      exact .inl ⟨rfl, ‹_›⟩
    · cases hstep
    · cases hstep
      exact .inr rfl) _ fs fs' h
  refine ⟨fun pre hpre => ?_, fun other hother => hsame other fun i _ heq => hother (heq ▸ List.take_prefix _ _)⟩
  rw [List.prefix_iff_eq_take] at hpre
  cases hlen : pre.length with
  | zero => simp_all [entryAt, isBase]
  | succ k =>
    rw [hpre, hlen]
    have hk : k < cs.length := by
      have := (List.prefix_iff_eq_take.2 hpre).length_le
      omega
    exact hnew k (List.mem_range.2 hk)

/-! ## Joining a name to a directory -/

/-- A name that is one component of its own: not empty, `.` or `..`, and without `/`. -/
structure PlainName (name : String) : Prop where
  no_slash : '/' ∉ name.toList
  ne_empty : name ≠ ""
  ne_dot : name ≠ "."
  ne_dotdot : name ≠ ".."

theorem startsWith_slash_append {a : String} (b : String) (ha : a ≠ "") :
    (a ++ b).startsWith "/" = a.startsWith "/" := by
  rw [Bool.eq_iff_iff, String.startsWith_string_iff, String.startsWith_string_iff,
    String.toList_append]
  obtain ⟨x, xs, hx⟩ := List.exists_cons_of_ne_nil (String.toList_eq_nil_iff.not.2 ha)
  rw [hx]
  simp

theorem PlainName.startsWith_slash {name : String} (h : PlainName name) :
    name.startsWith "/" = false := by
  rw [String.startsWith_string_eq_false_iff]
  exact fun hpre => h.no_slash (hpre.subset (by simp))

theorem PlainName.parts {name : String} (h : PlainName name) :
    (name.toList.splitOn '/').map String.ofList = [name] := by
  rw [List.splitOn_eq_singleton h.no_slash, List.map_singleton, String.ofList_toList]

theorem resolve_snoc_name {p q name : String} {P : List String} {r : Route}
    (hname : PlainName name) (hstart : q.startsWith "/" = p.startsWith "/")
    (hp' : (p.toList.splitOn '/').map String.ofList = P ∨
      (p.toList.splitOn '/').map String.ofList = P ++ [""])
    (hq : (q.toList.splitOn '/').map String.ofList = P ++ [name])
    (hp : resolve p = some r) : resolve q = some ⟨r.comps ++ [name], false, r.passed⟩ := by
  have hn1 : (name == "" || name == ".") = false := by simp [hname.ne_empty, hname.ne_dot]
  have hn2 : (name == "..") = false := by simp [hname.ne_dotdot]
  have hlast : (name == "" || name == "." || name == "..") = false := by simp [hn1, hn2]
  simp only [resolve, hstart, hq] at hp ⊢
  rcases hp' with hp' | hp' <;> rw [hp'] at hp <;>
    simp only [List.foldl_append, List.foldl_cons, List.foldl_nil, hn1, hn2, beq_self_eq_true,
      Bool.true_or, if_true, Bool.false_eq_true, if_false] at hp ⊢
  · obtain ⟨w, hW, rfl⟩ := Option.map_eq_some_iff.1 hp
    rw [hW]
    simp [hlast]
  · obtain ⟨x, hx, rfl⟩ := Option.map_eq_some_iff.1 hp
    obtain ⟨w, hW, hx⟩ := Option.bind_eq_some_iff.1 hx
    cases hx
    rw [hW]
    simp [hlast]

/-- A plain name joined to a directory path resolves to the directory's components and the
name, and passes what the directory's path passes. -/
theorem resolve_join {dir name : String} {r : Route} (hname : PlainName name)
    (hdir : resolve dir = some r) :
    resolve (join dir name) = some ⟨r.comps ++ [name], false, r.passed⟩ := by
  by_cases hempty : dir = ""
  · -- the name alone, against the empty path
    subst hempty
    have hjoin : join "" name = name := by simp [join]
    rw [hjoin]
    exact resolve_snoc_name (P := []) hname (by rw [hname.startsWith_slash]; rfl)
      (.inr rfl) hname.parts hdir
  have hne : dir.isEmpty = false := String.isEmpty_eq_false_iff.2 hempty
  simp only [join, hname.startsWith_slash, hne, Bool.or_false, Bool.false_eq_true, if_false]
  split
  · next hend =>
    have hsuffix : ['/'] <:+ dir.toList := by
      simpa [← String.endsWith_toSlice, String.Slice.endsWith_string_iff] using hend
    obtain ⟨D, hD⟩ := hsuffix
    refine resolve_snoc_name (P := (D.splitOn '/').map String.ofList) hname
      (startsWith_slash_append _ hempty) (.inr ?_) ?_ hdir
    · rw [← hD, List.splitOn_append_cons_self D [], List.splitOn_nil]
      simp
    · rw [String.toList_append, ← hD, List.append_assoc, List.singleton_append,
        List.splitOn_append_cons_self, List.map_append, hname.parts]
  · refine resolve_snoc_name hname ?_ (.inl rfl) ?_ hdir
    · rw [String.append_assoc, startsWith_slash_append _ hempty]
    · rw [String.toList_append, String.toList_append, List.append_assoc]
      show ((dir.toList ++ '/' :: name.toList).splitOn '/').map String.ofList = _
      rw [List.splitOn_append_cons_self, List.map_append, hname.parts]

end Courseware.FileStore
