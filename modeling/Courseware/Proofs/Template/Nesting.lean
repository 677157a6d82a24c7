import Mathlib
import Courseware.Proofs.Template.Cache

/-!
# How deep partials nest

Including the partials of a text walks its pieces. A reference whose partial is found is
included by a walk of its own, one call deeper: the partial's key is pushed on the chain of
partials being included, and popped when that call returns. A reference is followed only while
the chain is shorter than `maxPartialDepth`; past that it is written as it stands.

`Expansion` is that walk as a relation, with the chain as state; nothing in it bounds the
recursion but the guard on the chain's length, and its index counts the levels of calls below
the walk. From any chain, text, store and engine the walk ends, at most
`maxPartialDepth - chain.length` levels deep, with exactly one result: the one `Engine.expand`
computes with that many levels left. A walk that ends well gives back the chain it started with
(`expansion_ends`).

The proof follows the walk: `expandStep` is what `expand` does with one piece, with one lemma
per way a reference can go; `foldlM_expansion` runs the steps over the pieces of one text, and
`expand_expansion` nests the walks by induction on the levels left.
-/

namespace Courseware.Template.Engine

open Pattern

variable {fs : FileStore}

/-- Including the partials of the pieces `ps` of a text, after the text `out` already written,
from the engine `e` and with the partials of `chain` being included, ends with `res`: the text
written and the chain, or an error, each with the engine left. A partial found is included by a
walk of its own from the chain with its key pushed, and when that walk ends well its last key is
popped. The index `n` bounds how many levels of such walks lie below this one. -/
inductive Expansion (fs : FileStore) :
    Nat → List String → List (Piece Reference) → String → Engine →
      EStateM.Result TemplateError Engine (String × List String) → Prop
  /-- No piece is left. -/
  | done {n chain out e} : Expansion fs n chain [] out e (.ok (out, chain) e)
  /-- A character is written as it is. -/
  | char {n chain c ps out e res} :
      Expansion fs n chain ps (out.push c) e res → Expansion fs n chain (.char c :: ps) out e res
  /-- A reference to a partial of the chain is a cycle. -/
  | cycle {n chain r ps out e} (hk : partialKey r.name ∈ chain) :
      Expansion fs n chain (.hit r :: ps) out e (.error (.cycle (chain ++ [partialKey r.name])) e)
  /-- A reference met when the chain is full is written as it stands. -/
  | deep {n chain r ps out e res} (hk : partialKey r.name ∉ chain)
      (hfull : maxPartialDepth ≤ chain.length) :
      Expansion fs n chain ps (out ++ String.ofList r.source) e res →
      Expansion fs n chain (.hit r :: ps) out e res
  /-- A partial that cannot be read fails the walk. -/
  | unreadable {n chain r ps out e e' x} (hk : partialKey r.name ∉ chain)
      (hroom : chain.length < maxPartialDepth) (hload : (loadPartial fs r.name).run e = .error x e') :
      Expansion fs n chain (.hit r :: ps) out e (.error x e')
  /-- A partial not found is replaced by a comment saying so. -/
  | missing {n chain r ps out e e' res} (hk : partialKey r.name ∉ chain)
      (hroom : chain.length < maxPartialDepth)
      (hload : (loadPartial fs r.name).run e = .ok none e') :
      Expansion fs n chain ps (out ++ s!"<!-- Partial '{r.name}' not found -->") e' res →
      Expansion fs n chain (.hit r :: ps) out e res
  /-- A partial whose own walk fails fails this one. -/
  | innerFails {n chain r ps out e e' content x e''} (hk : partialKey r.name ∉ chain)
      (hroom : chain.length < maxPartialDepth)
      (hload : (loadPartial fs r.name).run e = .ok (some content) e') :
      Expansion fs n (chain ++ [partialKey r.name]) (cut partialRef content.toList) "" e'
        (.error x e'') →
      Expansion fs (n + 1) chain (.hit r :: ps) out e (.error x e'')
  /-- A partial found is included by its own walk, one level down, and this walk goes on with
  the text that one wrote and the chain it gave back, less its last key. -/
  | found {n chain r ps out e e' content inner chain' e'' res} (hk : partialKey r.name ∉ chain)
      (hroom : chain.length < maxPartialDepth)
      (hload : (loadPartial fs r.name).run e = .ok (some content) e') :
      Expansion fs n (chain ++ [partialKey r.name]) (cut partialRef content.toList) "" e'
        (.ok (inner, chain') e'') →
      Expansion fs (n + 1) chain'.dropLast ps (out ++ inner) e'' res →
      Expansion fs (n + 1) chain (.hit r :: ps) out e res

def withChain (chain : List String) (res : EStateM.Result TemplateError Engine String) :
    EStateM.Result TemplateError Engine (String × List String) :=
  res.map fun out => (out, chain)

@[simp] theorem withChain_ok (chain : List String) (out : String) (e : Engine) :
    withChain chain (.ok out e) = .ok (out, chain) e := rfl

@[simp] theorem withChain_error (chain : List String) (x : TemplateError) (e : Engine) :
    withChain chain (.error x e) = .error x e := rfl

/-! ## One step of `expand` -/

/-- What `expand` does with one piece of a text. -/
def expandStep (fs : FileStore) (chain : List String) (depth : Nat) (out : String) :
    Piece Reference → TemplateM String
  | .char c => pure (out.push c)
  | .hit r => do
    let key := partialKey r.name
    if chain.contains key then throw (.cycle (chain ++ [key]))
    match depth with
    | 0 => pure (out ++ String.ofList r.source)
    | d + 1 =>
      match ← loadPartial fs r.name with
      | some content => pure (out ++ (← expand fs (chain ++ [key]) d content.toList))
      | none => pure (out ++ s!"<!-- Partial '{r.name}' not found -->")

theorem expand_eq_foldlM (fs : FileStore) (chain : List String) (depth : Nat)
    (text : List Char) :
    expand fs chain depth text = (cut partialRef text).foldlM (expandStep fs chain depth) "" := by
  rw [expand.eq_1]
  rfl

section Step

variable {chain : List String} {r : Reference} {out : String} {e e' : Engine}

theorem expandStep_cycle (depth : Nat) (hk : partialKey r.name ∈ chain) :
    (expandStep fs chain depth out (.hit r)).run e =
      .error (.cycle (chain ++ [partialKey r.name])) e := by
  simp [expandStep, hk]

theorem expandStep_deep (hk : partialKey r.name ∉ chain) :
    (expandStep fs chain 0 out (.hit r)).run e = .ok (out ++ String.ofList r.source) e := by
  simp [expandStep, hk]

theorem expandStep_unreadable {d : Nat} {x : TemplateError} (hk : partialKey r.name ∉ chain)
    (hload : (loadPartial fs r.name).run e = .error x e') :
    (expandStep fs chain (d + 1) out (.hit r)).run e = .error x e' := by
  simp [expandStep, hk, hload]

theorem expandStep_missing {d : Nat} (hk : partialKey r.name ∉ chain)
    (hload : (loadPartial fs r.name).run e = .ok none e') :
    (expandStep fs chain (d + 1) out (.hit r)).run e =
      .ok (out ++ s!"<!-- Partial '{r.name}' not found -->") e' := by
  simp [expandStep, hk, hload]

theorem expandStep_found {d : Nat} {content : String} (hk : partialKey r.name ∉ chain)
    (hload : (loadPartial fs r.name).run e = .ok (some content) e') :
    (expandStep fs chain (d + 1) out (.hit r)).run e =
      ((expand fs (chain ++ [partialKey r.name]) d content.toList).run e').map (out ++ ·) := by
  simp [expandStep, hk, hload]

end Step

/-! ## The walk of `expand` -/

/-- The steps of `expand` over the pieces of a text, with `d` levels left for a chain that has
room for `d` more keys, walk as `Expansion` does, given that the walks of the partials found,
one level down, do. -/
theorem foldlM_expansion {d : Nat} {chain : List String} (hd : d = maxPartialDepth - chain.length)
    (hnested : ∀ k, d = k + 1 → ∀ key text e,
      Expansion fs k (chain ++ [key]) (cut partialRef text) "" e
        (withChain (chain ++ [key]) ((expand fs (chain ++ [key]) k text).run e))) :
    ∀ ps out e, Expansion fs d chain ps out e
      (withChain chain ((ps.foldlM (expandStep fs chain d) out).run e))
  | [], out, e => .done
  | .char c :: ps, out, e => .char (foldlM_expansion hd hnested ps (out.push c) e)
  | .hit r :: ps, out, e => by
    rw [List.foldlM_cons, EStateM.run_bind]
    by_cases hk : partialKey r.name ∈ chain
    · rw [expandStep_cycle d hk]
      exact .cycle hk
    cases d with
    | zero =>
      rw [expandStep_deep hk]
      exact .deep hk (by omega) (foldlM_expansion hd hnested ps _ e)
    | succ k =>
      have hroom : chain.length < maxPartialDepth := by omega
      rcases hload : (loadPartial fs r.name).run e with ⟨_ | content, e'⟩ | ⟨x, e'⟩
      · rw [expandStep_missing hk hload]
        exact .missing hk hroom hload (foldlM_expansion hd hnested ps _ e')
      · rw [expandStep_found hk hload]
        have hinner := hnested k rfl (partialKey r.name) content.toList e'
        rcases hrun : (expand fs (chain ++ [partialKey r.name]) k content.toList).run e' with
          ⟨inner, e''⟩ | ⟨x, e''⟩ <;> rw [hrun] at hinner
        · refine .found hk hroom hload hinner ?_
          rw [List.dropLast_concat]
          exact foldlM_expansion hd hnested ps _ e''
        · exact .innerFails hk hroom hload hinner
      · rw [expandStep_unreadable hk hload]
        exact .unreadable hk hroom hload

/-- `expand` with `d` levels left walks as `Expansion` does from a chain with room for `d` more
keys, its partials nested at most `d` levels deep. -/
theorem expand_expansion (fs : FileStore) (d : Nat) :
    ∀ (chain : List String), d = maxPartialDepth - chain.length → ∀ text e,
      Expansion fs d chain (cut partialRef text) "" e
        (withChain chain ((expand fs chain d text).run e)) := by
  induction d with
  | zero =>
    intro chain hd text e
    rw [expand_eq_foldlM]
    exact foldlM_expansion hd (fun k hk => absurd hk (Nat.zero_ne_add_one k)) _ _ _
  | succ k ih =>
    intro chain hd text e
    rw [expand_eq_foldlM]
    refine foldlM_expansion hd (fun k' hk' key text' e' => ?_) _ _ _
    obtain rfl : k' = k := by omega
    exact ih (chain ++ [key]) (by simp only [List.length_append, List.length_singleton]; omega)
      text' e'

/-! ## One result, and the chain given back -/

theorem Expansion.result_eq {n n' : Nat} {chain : List String} {ps : List (Piece Reference)}
    {out : String} {e : Engine} {res res' : EStateM.Result TemplateError Engine (String × List String)}
    (h : Expansion fs n chain ps out e res) (h' : Expansion fs n' chain ps out e res') :
    res = res' := by
  induction h generalizing n' res' with
  | done => cases h'; rfl
  | char _ ih =>
    cases h' with
    | char h' => exact ih h'
  | cycle hk =>
    cases h' with
    | cycle => rfl
    | deep hk' | unreadable hk' | missing hk' | innerFails hk' | found hk' => exact absurd hk hk'
  | deep hk hfull _ ih =>
    cases h' with
    | cycle hk' => contradiction
    | deep _ _ h' => exact ih h'
    | unreadable _ hroom | missing _ hroom | innerFails _ hroom | found _ hroom => omega
  | unreadable hk hroom hload =>
    cases h' with
    | cycle hk' => contradiction
    | deep _ hfull => omega
    | unreadable _ _ hload' =>
      cases hload.symm.trans hload'
      rfl
    | missing _ _ hload' | innerFails _ _ hload' | found _ _ hload' =>
      cases hload.symm.trans hload'
  | missing hk hroom hload _ ih =>
    cases h' with
    | cycle hk' => contradiction
    | deep _ hfull => omega
    | missing _ _ hload' h' =>
      cases hload.symm.trans hload'
      exact ih h'
    | unreadable _ _ hload' | innerFails _ _ hload' | found _ _ hload' =>
      cases hload.symm.trans hload'
  | innerFails hk hroom hload _ ih =>
    cases h' with
    | cycle hk' => contradiction
    | deep _ hfull => omega
    | innerFails _ _ hload' h' =>
      cases hload.symm.trans hload'
      cases ih h'
      rfl
    | found _ _ hload' h' =>
      cases hload.symm.trans hload'
      cases ih h'
    | unreadable _ _ hload' | missing _ _ hload' =>
      cases hload.symm.trans hload'
  | found hk hroom hload _ _ ih₁ ih₂ =>
    cases h' with
    | cycle hk' => contradiction
    | deep _ hfull => omega
    | innerFails _ _ hload' h' =>
      cases hload.symm.trans hload'
      cases ih₁ h'
    | found _ _ hload' h₁ h₂ =>
      cases hload.symm.trans hload'
      cases ih₁ h₁
      exact ih₂ h₂
    | unreadable _ _ hload' | missing _ _ hload' =>
      cases hload.symm.trans hload'

/-- A walk that ends well gives back the chain it started with: each partial's key is popped
as its walk returns. -/
theorem Expansion.chain_eq {n : Nat} {chain : List String} {ps : List (Piece Reference)}
    {out : String} {e : Engine} {res : EStateM.Result TemplateError Engine (String × List String)}
    (h : Expansion fs n chain ps out e res) :
    ∀ {out' chain' e'}, res = .ok (out', chain') e' → chain' = chain := by
  induction h with
  | done => intro _ _ _ hres; cases hres; rfl
  | char _ ih => exact ih
  | cycle | unreadable | innerFails => intro _ _ _ hres; cases hres
  | deep _ _ _ ih => exact ih
  | missing _ _ _ _ ih => exact ih
  | found _ _ _ _ _ ih₁ ih₂ =>
    intro _ _ _ hres
    rw [ih₂ hres, ih₁ rfl, List.dropLast_concat]

/-! ## Every walk ends -/

/-- Including the partials of a text ends, whatever the text, the files and built-ins, the
engine's caches and the chain it starts from. Following the steps of the inclusion, with the
chain of partials as state, pushed before each partial found is included and popped after, and a
reference followed only while the chain is shorter than `maxPartialDepth`, there is a walk that
nests at most `maxPartialDepth - chain.length` levels of inclusions (so at most
`maxPartialDepth + 1` calls in all), every walk ends with its result, which is what `expand`
computes with that many levels left, and a walk that ends well gives back the chain it began
with. -/
theorem expansion_ends (fs : FileStore) (chain : List String) (text : List Char) (e : Engine) :
    Expansion fs (maxPartialDepth - chain.length) chain (cut partialRef text) "" e
        (withChain chain ((expand fs chain (maxPartialDepth - chain.length) text).run e)) ∧
      (∀ n res, Expansion fs n chain (cut partialRef text) "" e res →
        res = withChain chain ((expand fs chain (maxPartialDepth - chain.length) text).run e)) ∧
      ∀ n ps out e' out' chain' e'', Expansion fs n chain ps out e' (.ok (out', chain') e'') →
        chain' = chain := by
  have hwalk := expand_expansion fs _ chain rfl text e
  exact ⟨hwalk, fun _ _ h => h.result_eq hwalk, fun _ _ _ _ _ _ _ h => h.chain_eq rfl⟩

end Courseware.Template.Engine
