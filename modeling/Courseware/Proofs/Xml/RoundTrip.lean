import Mathlib
import Courseware.Proofs.Xml.Tag

/-!
# Writing an element and reading it back

Reading written XML gives back the tree that was written, up to text: text next to text is read
as one text, and empty text is not read at all. `Node.normalizeChildren` joins and drops text so
(each element's children too), and `Element.normalize` applies it to an element's children; it
keeps every element, in order (`childElements_normalize`), and the text directly inside an
element (`rawText_normalize`).

The round trip holds for trees whose names a tag can delimit (`Node.Writable`): element names
with no blank, quote or `>` that do not start with `!`, `?` or `/`, attribute names that also
have no `=` and are not empty, given once each. An element with children and no attributes must
not end its name in `/`, or its start tag would read as an empty-element tag. For such a tree,
`parse` reads the written element as the normalised one (`parse_toXml`), and written children
between a start tag and an end tag are read as the normalised children (`parse_inner`).

Reading follows the bytes: text up to the next `<` is one text token (`tokensFrom_text_append`),
markup one token (`tokensFrom_markup`). The tree builder puts text into the element open
innermost (`build_text`), opens an element at a start tag (`build_start`) and attaches it at
its end tag (`build_close`) or at once for an empty-element tag (`build_empty`). An element is
read back with its parent open whatever follows it (`readsBack_of_writable`); children are read
one after the other, the text before each element joined (`children_readBack`).
-/

namespace Courseware.Xml

open Utf8 (encode)

/-! ## Normal form -/

namespace Node

/-- Text put before nodes: it joins text they start with, and empty text adds nothing. -/
def mergeText (s : String) (ns : List Node) : List Node :=
  if s.isEmpty then ns
  else
    match ns with
    | .text t :: rest => .text (s ++ t) :: rest
    | .element n a cs :: rest => .text s :: .element n a cs :: rest
    | [] => [.text s]

/-- Children as reading their written form gives them: text next to text joined, empty text
dropped, and the children of each element so too. -/
def normalizeChildren : List Node → List Node
  | [] => []
  | .text s :: rest => mergeText s (normalizeChildren rest)
  | .element n a cs :: rest => .element n a (normalizeChildren cs) :: normalizeChildren rest

/-- The tree as reading its written form gives it. -/
def normalize : Node → Node
  | .element n a cs => .element n a (normalizeChildren cs)
  | .text s => .text s

@[simp] theorem mergeText_empty (ns : List Node) : mergeText "" ns = ns := rfl

theorem mergeText_element {s : String} (hs : s ≠ "") (n : String) (a : List (String × String))
    (cs rest : List Node) : mergeText s (.element n a cs :: rest) = .text s :: .element n a cs :: rest := by
  rw [mergeText, if_neg (by simpa using hs)]

theorem mergeText_mergeText (s t : String) (ns : List Node) :
    mergeText s (mergeText t ns) = mergeText (s ++ t) ns := by
  by_cases hs : s = ""
  · subst hs
    rw [mergeText_empty, String.empty_append]
  by_cases ht : t = ""
  · subst ht
    rw [mergeText_empty, String.append_empty]
  have hst : (s ++ t).isEmpty = false := by
    rw [String.isEmpty_eq_false_iff]
    intro h
    exact hs (String.append_eq_empty_iff.1 h).1
  have hs' : s.isEmpty = false := String.isEmpty_eq_false_iff.2 hs
  have ht' : t.isEmpty = false := String.isEmpty_eq_false_iff.2 ht
  cases ns with
  | nil => simp [mergeText, hs', ht', hst]
  | cons n rest =>
    cases n with
    | text u => simp [mergeText, hs', ht', hst, String.append_assoc]
    | element m a cs => simp [mergeText, hs', ht', hst]

theorem filterMap_element?_mergeText (s : String) (ns : List Node) :
    (mergeText s ns).filterMap element? = ns.filterMap element? := by
  unfold mergeText
  split
  · rfl
  · split <;> rfl

theorem filterMap_element?_normalizeChildren :
    ∀ cs : List Node, (normalizeChildren cs).filterMap element? =
      (cs.filterMap element?).map fun e => ⟨e.name, e.attributes, normalizeChildren e.children⟩
  | [] => by rw [normalizeChildren]; rfl
  | .text s :: rest => by
    rw [normalizeChildren, filterMap_element?_mergeText, filterMap_element?_normalizeChildren rest]
    rfl
  | .element n a cs :: rest => by
    rw [normalizeChildren, List.filterMap_cons, filterMap_element?_normalizeChildren rest]
    rfl

section TextOf

variable {f : Node → Option String} (htext : ∀ s, f (.text s) = some s)
  (helement : ∀ n a cs, f (.element n a cs) = none)
include htext helement

theorem join_filterMap_mergeText (s : String) (ns : List Node) :
    String.join ((mergeText s ns).filterMap f) = s ++ String.join (ns.filterMap f) := by
  unfold mergeText
  split
  · next hs => rw [String.isEmpty_iff.1 hs, String.empty_append]
  · split
    · rw [List.filterMap_cons, htext, List.filterMap_cons, htext, String.join_cons, String.join_cons,
        String.append_assoc]
    · rw [List.filterMap_cons, htext, List.filterMap_cons, helement, String.join_cons]
    · rw [List.filterMap_cons, htext, List.filterMap_nil, String.join_cons]

theorem join_filterMap_normalizeChildren :
    ∀ cs : List Node, String.join ((normalizeChildren cs).filterMap f) = String.join (cs.filterMap f)
  | [] => by rw [normalizeChildren]
  | .text s :: rest => by
    rw [normalizeChildren, join_filterMap_mergeText htext helement,
      join_filterMap_normalizeChildren rest, List.filterMap_cons, htext, String.join_cons]
  | .element n a cs :: rest => by
    rw [normalizeChildren, List.filterMap_cons, helement, List.filterMap_cons, helement,
      join_filterMap_normalizeChildren rest]

end TextOf

end Node

namespace Element

/-- The element as reading its written form gives it. -/
def normalize (e : Element) : Element := ⟨e.name, e.attributes, Node.normalizeChildren e.children⟩

theorem childElements_normalize (e : Element) :
    e.normalize.childElements = e.childElements.map normalize :=
  Node.filterMap_element?_normalizeChildren e.children

theorem rawText_normalize (e : Element) : e.normalize.rawText = e.rawText :=
  Node.join_filterMap_normalizeChildren (fun _ => rfl) (fun _ _ _ => rfl) e.children

theorem text_normalize (e : Element) : e.normalize.text = e.text := by
  rw [text, text, rawText_normalize]

end Element

/-! ## Reading text and markup -/

theorem tokensFrom_lt (rest : List UInt8) (pos : Nat) :
    tokensFrom (byte '<' :: rest) pos =
      match markup rest (pos + 1) with
      | (tok, some n) => tok :: tokensFrom (rest.drop n) (pos + 1 + n)
      | (tok, none) => [tok] := by
  have hdrop : (byte '<' :: rest).dropWhile (· != byte '<') = byte '<' :: rest := by
    simp
  have htake : (byte '<' :: rest).takeWhile (· != byte '<') = [] := by
    simp
  rw [tokensFrom]
  split
  · next hnil => rw [hdrop] at hnil; cases hnil
  · next r rest' hcons =>
    rw [hdrop] at hcons
    obtain ⟨rfl, rfl⟩ := List.cons.inj hcons
    simp only [htake, List.length_nil, Nat.add_zero]
    rcases markup rest (pos + 1) with ⟨tok, _ | n⟩ <;> rfl

/-- Markup after `<` is one token, and reading goes on after it. -/
theorem tokensFrom_markup {rest : List UInt8} {pos k : Nat} {tok : Token}
    (h : markup rest (pos + 1) = (tok, some k)) :
    tokensFrom (byte '<' :: rest) pos = tok :: tokensFrom (rest.drop k) (pos + 1 + k) := by
  rw [tokensFrom_lt, h]

/-- Text with no `<`, followed by markup or by the end, is one text token if it is not empty. -/
theorem tokensFrom_text_append {text more : List UInt8} (pos : Nat) (htext : byte '<' ∉ text)
    (hmore : ∀ b, more.head? = some b → b = byte '<') :
    tokensFrom (text ++ more) pos =
      (if text.isEmpty then [] else [.text text (pos + text.length)]) ++
        tokensFrom more (pos + text.length) := by
  cases text with
  | nil => simp
  | cons b bs =>
    have hall : ∀ x ∈ b :: bs, (x != byte '<') = true := fun x hx => by
      rw [bne_iff_ne]
      rintro rfl
      exact htext hx
    have hnot : ∀ r rest, more = r :: rest → (r != byte '<') = false := fun r rest h => by
      rw [hmore r (by rw [h]; rfl)]
      exact bne_self_eq_false _
    have htake : (b :: (bs ++ more)).takeWhile (· != byte '<') = b :: bs := by
      rw [← List.cons_append, List.takeWhile_append_of_pos hall]
      cases hm : more with
      | nil => rw [List.takeWhile_nil, List.append_nil]
      | cons r rest => rw [List.takeWhile_cons_of_neg (by simp [hnot r rest hm]), List.append_nil]
    have hdrop : (b :: (bs ++ more)).dropWhile (· != byte '<') = more := by
      rw [← List.cons_append, List.dropWhile_append_of_pos hall]
      cases hm : more with
      | nil => rfl
      | cons r rest => rw [List.dropWhile_cons_of_neg (by simp [hnot r rest hm])]
    rw [List.cons_append, tokensFrom]
    split
    · next hnil =>
      rw [hdrop] at hnil
      subst hnil
      simp only [List.append_nil, List.isEmpty_cons, Bool.false_eq_true, if_false, List.length_cons]
      rw [tokensFrom]
      rfl
    · next r rest hcons =>
      rw [hdrop] at hcons
      subst hcons
      obtain rfl : r = byte '<' := hmore r rfl
      rw [tokensFrom_lt]
      simp only [htake, List.isEmpty_cons, Bool.false_eq_true, if_false, List.length_cons]
      rcases markup rest (pos + (bs.length + 1) + 1) with ⟨tok, _ | n⟩ <;> rfl

/-! ## Building the tree -/

section Build

variable {total : Nat} {rest : List Token} {root : Option Element}

theorem build_text {raw : List UInt8} {s : String} (h : unescape raw = .ok s) (pos : Nat) (f : Frame)
    (fs : List Frame) :
    build total (.text raw pos :: rest) (f :: fs) root =
      build total rest ({ f with children := .text s :: f.children } :: fs) root := by
  simp only [build, h]
  rfl

theorem build_start {content : List UInt8} {pos : Nat} {frame : Frame} {stack : List Frame}
    (h : openElement content (content.takeWhile (!isMarkupBlank ·)).length pos = .ok frame) :
    build total (.start content pos :: rest) stack root = build total rest (frame :: stack) root := by
  simp only [build, h]
  rfl

theorem build_empty {content : List UInt8} {nameLength pos : Nat} {frame : Frame}
    {stack st : List Frame} {r : Option Element} (h : openElement content nameLength pos = .ok frame)
    (hattach : attach frame.close pos stack root = .ok (st, r)) :
    build total (.empty content nameLength pos :: rest) stack root = build total rest st r := by
  simp only [build, h, bind, Except.bind, hattach]

theorem build_close {name : List UInt8} {pos : Nat} {f : Frame} {fs st : List Frame}
    {r : Option Element} (hname : f.rawName = name) (hattach : attach f.close pos fs root = .ok (st, r)) :
    build total (.close name pos :: rest) (f :: fs) root = build total rest st r := by
  simp only [build, hname, bne_self_eq_false, Bool.false_eq_true, if_false, hattach]
  rfl

theorem build_escaped (p : String) (pos : Nat) (f : Frame) (fs : List Frame) :
    build total ((if (encode (escape p)).isEmpty then [] else [.text (encode (escape p)) pos]) ++ rest)
        (f :: fs) root =
      build total rest ({ f with children := (Node.mergeText p []).reverse ++ f.children } :: fs) root := by
  by_cases hp : p = ""
  · subst hp
    rw [escape_empty, Utf8.encode_empty]
    rfl
  · have hbytes : (encode (escape p)).isEmpty = false := by
      rw [List.isEmpty_eq_false_iff]
      intro h
      exact hp ((escape_eq_empty_iff p).1 (Utf8.encode_eq_nil_iff.1 h))
    rw [hbytes, if_neg Bool.false_ne_true, List.singleton_append, build_text (unescape_escape p),
      Node.mergeText, if_neg (by simpa using hp)]
    rfl

end Build

/-! ## Written bytes -/

theorem attrs_lambda :
    (fun (x : String × String) => match x with | (k, v) => " " ++ k ++ "=\"" ++ escape v ++ "\"") =
      attrXml := by
  funext x
  rfl

/-- An element is written as an empty-element tag without children, else as a start tag, its
children and an end tag. -/
theorem toXml_element (n : String) (a : List (String × String)) (cs : List Node) :
    (Node.element n a cs).toXml =
      if cs.isEmpty then "<" ++ n ++ attrsXml a ++ " />"
      else "<" ++ n ++ attrsXml a ++ ">" ++ String.join (cs.map Node.toXml) ++ "</" ++ n ++ ">" := by
  rw [Node.toXml, attrsXml, ← attrs_lambda]

theorem empty_tag_bytes (n : String) (a : List (String × String)) (more : List UInt8) :
    encode ("<" ++ n ++ attrsXml a ++ " />") ++ more =
      byte '<' :: (encode n ++ encode (attrsXml a) ++ byte ' ' :: byte '/' :: byte '>' :: more) := by
  have hlt : encode "<" = [byte '<'] := by rw [Utf8.encode_eq_flatMap]; decide
  have hend : encode " />" = [byte ' ', byte '/', byte '>'] := by rw [Utf8.encode_eq_flatMap]; decide
  simp only [Utf8.encode_append, hlt, hend, List.append_assoc, List.cons_append, List.nil_append]

theorem tagged_bytes (n : String) (a : List (String × String)) (inner : String) (more : List UInt8) :
    encode ("<" ++ n ++ attrsXml a ++ ">" ++ inner ++ "</" ++ n ++ ">") ++ more =
      byte '<' :: (encode n ++ encode (attrsXml a) ++ byte '>' ::
        (encode inner ++ byte '<' :: byte '/' :: (encode n ++ byte '>' :: more))) := by
  have hlt : encode "<" = [byte '<'] := by rw [Utf8.encode_eq_flatMap]; decide
  have hgt : encode ">" = [byte '>'] := by rw [Utf8.encode_eq_flatMap]; decide
  have hclose : encode "</" = [byte '<', byte '/'] := by rw [Utf8.encode_eq_flatMap]; decide
  simp only [Utf8.encode_append, hlt, hgt, hclose, List.append_assoc, List.cons_append,
    List.nil_append]

theorem element_bytes_head (n : String) (a : List (String × String)) (cs : List Node) (more : List UInt8) :
    ∀ b, (encode (Node.element n a cs).toXml ++ more).head? = some b → b = byte '<' := by
  intro b hb
  rw [toXml_element] at hb
  split at hb
  · rw [empty_tag_bytes] at hb
    cases hb
    rfl
  · rw [tagged_bytes] at hb
    cases hb
    rfl

/-! ## Reading written elements back -/

/-- A tree whose written form reads back: element names a tag can delimit, attribute names
given once each that a tag can delimit, and, for an element with children and no attributes, a
name that does not end in `/`. -/
inductive Node.Writable : Node → Prop
  | text (s : String) : Node.Writable (.text s)
  | element {name : String} {attrs : List (String × String)} {children : List Node}
      (hname : ElementName name) (hattrs : ∀ p ∈ attrs, AttributeName p.1)
      (hdistinct : (attrs.map Prod.fst).Nodup)
      (hslash : attrs = [] → children ≠ [] → name.toList.getLast? ≠ some '/')
      (hchildren : ∀ c ∈ children, Node.Writable c) : Node.Writable (.element name attrs children)

/-- Reading the written form of an element, with the element that is to hold it open, attaches
the normalised element there, whatever bytes follow it. Text says nothing alone: it is joined
with the text next to it. -/
def ReadsBack : Node → Prop
  | .text _ => True
  | .element n a cs => ∀ (total pos : Nat) (more : List UInt8) (stack : List Frame)
      (root : Option Element) (st : List Frame) (r : Option Element),
      (∀ p, attach ⟨n, a, Node.normalizeChildren cs⟩ p stack root = .ok (st, r)) →
      ∃ pos', build total (tokensFrom (encode (Node.element n a cs).toXml ++ more) pos) stack root =
        build total (tokensFrom more pos') st r

/-- Children read one after the other: the text before each element is joined into one text,
and each element is attached after it. -/
theorem children_readBack (total : Nat) :
    ∀ (cs : List Node), (∀ c ∈ cs, ReadsBack c) →
    ∀ (p : String) (more : List UInt8) (pos : Nat) (f : Frame) (fs : List Frame)
      (root : Option Element), (∀ b, more.head? = some b → b = byte '<') →
      ∃ pos', build total (tokensFrom (encode (escape p) ++
          (encode (String.join (cs.map Node.toXml)) ++ more)) pos) (f :: fs) root =
        build total (tokensFrom more pos')
          ({ f with children := (Node.mergeText p (Node.normalizeChildren cs)).reverse ++ f.children } ::
            fs) root
  | [], _, p, more, pos, f, fs, root, hmore => by
    rw [List.map_nil, String.join_nil, Utf8.encode_empty, List.nil_append,
      tokensFrom_text_append pos (byte_not_mem_escape (by decide) p) hmore, build_escaped, Node.normalizeChildren]
    exact ⟨_, rfl⟩
  | .text s :: cs, hcs, p, more, pos, f, fs, root, hmore => by
    have hbytes : encode (escape p) ++ (encode (String.join ((Node.text s :: cs).map Node.toXml)) ++ more) =
        encode (escape (p ++ s)) ++ (encode (String.join (cs.map Node.toXml)) ++ more) := by
      rw [List.map_cons, String.join_cons, Node.toXml, escape_append, Utf8.encode_append,
        Utf8.encode_append, List.append_assoc, List.append_assoc]
    obtain ⟨pos', h⟩ := children_readBack total cs (fun c hc => hcs c (List.mem_cons_of_mem _ hc))
      (p ++ s) more pos f fs root hmore
    refine ⟨pos', ?_⟩
    rw [hbytes, h, Node.normalizeChildren, Node.mergeText_mergeText]
  | .element n a ccs :: cs, hcs, p, more, pos, f, fs, root, hmore => by
    have hhead := element_bytes_head n a ccs (encode (String.join (cs.map Node.toXml)) ++ more)
    rw [List.map_cons, String.join_cons, Utf8.encode_append, List.append_assoc,
      tokensFrom_text_append pos (byte_not_mem_escape (by decide) p) hhead, build_escaped]
    obtain ⟨pos₁, h₁⟩ := hcs _ List.mem_cons_self total _ (encode (String.join (cs.map Node.toXml)) ++ more)
      ({ f with children := (Node.mergeText p []).reverse ++ f.children } :: fs) root _ root (fun _ => rfl)
    obtain ⟨pos₂, h₂⟩ := children_readBack total cs (fun c hc => hcs c (List.mem_cons_of_mem _ hc))
      "" more pos₁ _ fs root hmore
    rw [escape_empty, Utf8.encode_empty, List.nil_append] at h₂
    refine ⟨pos₂, ?_⟩
    rw [h₁, h₂, Node.normalizeChildren, Node.mergeText_empty]
    have hmerge : Node.mergeText p (.element n a (Node.normalizeChildren ccs) :: Node.normalizeChildren cs) =
        Node.mergeText p [] ++ .element n a (Node.normalizeChildren ccs) :: Node.normalizeChildren cs := by
      by_cases hp : p = ""
      · subst hp
        rfl
      · rw [Node.mergeText_element hp, Node.mergeText, if_neg (by simpa using hp)]
        rfl
    rw [hmerge]
    simp only [List.reverse_append, List.reverse_cons, List.append_assoc, List.singleton_append]
    rfl

/-! Reading goes on after the bytes a tag took: its content and `>`, its content and `/>`, or
`/`, its name and `>`. -/

theorem drop_past_tag (xs : List UInt8) (b : UInt8) (rest : List UInt8) :
    (xs ++ b :: rest).drop (xs.length + 1) = rest := by
  rw [← List.drop_drop, List.drop_left]
  rfl

theorem drop_past_empty_tag (xs ys : List UInt8) (b₁ b₂ b₃ : UInt8) (rest : List UInt8) :
    (xs ++ ys ++ b₁ :: b₂ :: b₃ :: rest).drop ((xs ++ (ys ++ [b₁])).length + 2) = rest := by
  rw [show (xs ++ (ys ++ [b₁])).length + 2 = (xs ++ ys ++ [b₁, b₂]).length + 1 by simp; omega,
    show xs ++ ys ++ b₁ :: b₂ :: b₃ :: rest = (xs ++ ys ++ [b₁, b₂]) ++ b₃ :: rest by simp,
    drop_past_tag]

theorem drop_past_end_tag (c : UInt8) (xs : List UInt8) (b : UInt8) (rest : List UInt8) :
    (c :: (xs ++ b :: rest)).drop (xs.length + 2) = rest := by
  rw [show xs.length + 2 = 1 + (xs.length + 1) by omega, ← List.drop_drop]
  exact drop_past_tag xs b rest

/-- A start tag, written children and an end tag read back as the element with the normalised
children. -/
theorem tagged_readsBack {n : String} {a : List (String × String)} {cs : List Node}
    (hn : ElementName n) (ha : ∀ p ∈ a, AttributeName p.1) (hnodup : (a.map Prod.fst).Nodup)
    (hslash : a = [] → n.toList.getLast? ≠ some '/') (hcs : ∀ c ∈ cs, ReadsBack c)
    (total pos : Nat) (more : List UInt8) (stack : List Frame) (root : Option Element)
    (st : List Frame) (r : Option Element)
    (hattach : ∀ p, attach ⟨n, a, Node.normalizeChildren cs⟩ p stack root = .ok (st, r)) :
    ∃ pos', build total (tokensFrom (encode ("<" ++ n ++ attrsXml a ++ ">" ++
        String.join (cs.map Node.toXml) ++ "</" ++ n ++ ">") ++ more) pos) stack root =
      build total (tokensFrom more pos') st r := by
  have hopen : openElement (encode n ++ encode (attrsXml a))
      ((encode n ++ encode (attrsXml a)).takeWhile (!isMarkupBlank ·)).length
      (pos + 1 + (encode n ++ encode (attrsXml a)).length + 1) = .ok ⟨encode n, n, a, []⟩ := by
    have hname : ((encode n ++ encode (attrsXml a)).takeWhile (!isMarkupBlank ·)).length =
        (encode n).length := takeWhile_name hn.no_blank fun b hb => by
      by_cases ha' : a = []
      · subst ha'
        rw [attrsXml_nil_bytes] at hb
        cases hb
      · rw [attrsXml_head ha'] at hb
        cases hb
        rfl
    have h := openElement_written (n := n) ha hnodup
      (fun _ h => absurd h List.not_mem_nil : ∀ b ∈ ([] : List UInt8), isMarkupBlank b = true)
      (pos + 1 + (encode n ++ encode (attrsXml a)).length + 1)
    rw [List.append_nil] at h
    rwa [hname]
  have hstart := markup_written_start hn ha hslash (encode (String.join (cs.map Node.toXml)) ++
    byte '<' :: byte '/' :: (encode n ++ byte '>' :: more)) (pos + 1)
  rw [tagged_bytes, tokensFrom_markup hstart, drop_past_tag, build_start hopen]
  obtain ⟨pos₁, h₁⟩ := children_readBack total cs hcs "" (byte '<' :: byte '/' :: (encode n ++ byte '>' :: more))
    _ ⟨encode n, n, a, []⟩ stack root fun b hb => by cases hb; rfl
  rw [escape_empty, Utf8.encode_empty, List.nil_append] at h₁
  have hclose : ∀ p, attach (Frame.close ⟨encode n, n, a,
      (Node.mergeText "" (Node.normalizeChildren cs)).reverse ++ []⟩) p stack root = .ok (st, r) := by
    intro p
    rw [Frame.close, Node.mergeText_empty, List.append_nil, List.reverse_reverse]
    exact hattach p
  rw [h₁, tokensFrom_markup (markup_written_close hn more _), drop_past_end_tag,
    build_close rfl (hclose _)]
  exact ⟨_, rfl⟩

/-- The written form of a writable element reads back as the normalised element. -/
theorem readsBack_of_writable {c : Node} (h : c.Writable) : ReadsBack c := by
  induction h with
  | text s => trivial
  | @element n a cs hn ha hnodup hslash _ ih =>
    intro total pos more stack root st r hattach
    rw [toXml_element]
    split
    · -- no children: an empty-element tag
      next hempty =>
      rw [List.isEmpty_iff.1 hempty, Node.normalizeChildren] at hattach
      rw [empty_tag_bytes, tokensFrom_markup (markup_written_empty hn ha more (pos + 1)),
        drop_past_empty_tag,
        build_empty (openElement_written ha hnodup (fun b hb => by simp at hb; rw [hb]; rfl) _)
          (hattach _)]
      exact ⟨_, rfl⟩
    · next hne =>
      exact tagged_readsBack hn ha hnodup (fun ha' => hslash ha' (by simpa using hne)) ih
        total pos more stack root st r hattach

/-! ## Reading whole documents -/

theorem tokenize_of_lt {bs : List UInt8} (h : ∀ b, bs.head? = some b → b = byte '<') :
    tokenize bs = tokensFrom bs 0 := by
  cases bs with
  | nil => rfl
  | cons b rest =>
    obtain rfl := h b rfl
    rw [tokenize, if_neg]
    rw [List.take_succ_cons, byteOrderMark]
    intro hbom
    have hlead : (byte '<' == (0xEF : UInt8)) = false := by decide
    simp [hlead] at hbom

theorem parse_of_build {source : String} {e : Element}
    (h : build (encode source).length (tokenize (encode source)) [] none = .ok e) :
    parse source = .ok e := by
  simp only [parse, h]

theorem build_root_of_readsBack {n : String} {a : List (String × String)} {cs : List Node}
    (h : ReadsBack (.element n a cs)) (total : Nat) :
    build total (tokensFrom (encode (Node.element n a cs).toXml) 0) [] none =
      .ok ⟨n, a, Node.normalizeChildren cs⟩ := by
  obtain ⟨pos, hread⟩ := h total 0 [] [] none [] (some ⟨n, a, Node.normalizeChildren cs⟩) fun _ => rfl
  rw [List.append_nil] at hread
  rw [hread, tokensFrom.eq_1]
  rfl

/-- A writable element written as a whole document is read as the normalised element. -/
theorem parse_toXml (e : Element) (h : e.toNode.Writable) : parse e.toXml = .ok e.normalize := by
  obtain ⟨n, a, cs⟩ := e
  have hhead := element_bytes_head n a cs []
  rw [List.append_nil] at hhead
  apply parse_of_build
  show build _ (tokenize (encode (Node.element n a cs).toXml)) [] none = _
  rw [tokenize_of_lt hhead]
  exact build_root_of_readsBack (readsBack_of_writable h) _

/-- The written children of a writable element, put between a start tag and an end tag of a
name with no attributes, are read as its normalised children. -/
theorem parse_inner {w : String} (hw : ElementName w) (hslash : w.toList.getLast? ≠ some '/')
    (e : Element) (h : e.toNode.Writable) :
    parse ("<" ++ w ++ ">" ++ e.inner ++ "</" ++ w ++ ">") = .ok ⟨w, [], e.normalize.children⟩ := by
  obtain ⟨n, a, cs⟩ := e
  have hcs : ∀ c ∈ cs, ReadsBack c := by
    cases h with
    | element _ _ _ _ hchildren => exact fun c hc => readsBack_of_writable (hchildren c hc)
  have hsource : "<" ++ w ++ ">" ++ Element.inner ⟨n, a, cs⟩ ++ "</" ++ w ++ ">" =
      "<" ++ w ++ attrsXml [] ++ ">" ++ String.join (cs.map Node.toXml) ++ "</" ++ w ++ ">" := by
    rw [attrsXml, List.map_nil, String.join_nil, String.append_empty]
    rfl
  have hhead : ∀ b, (encode ("<" ++ w ++ attrsXml [] ++ ">" ++ String.join (cs.map Node.toXml) ++
      "</" ++ w ++ ">")).head? = some b → b = byte '<' := by
    rw [← List.append_nil (encode _), tagged_bytes]
    rintro b ⟨⟩
    rfl
  obtain ⟨pos, hread⟩ := tagged_readsBack hw (fun _ h => absurd h List.not_mem_nil) List.nodup_nil
    (fun _ => hslash) hcs (encode ("<" ++ w ++ attrsXml [] ++ ">" ++ String.join (cs.map Node.toXml) ++
      "</" ++ w ++ ">")).length 0 [] [] none [] (some ⟨w, [], Node.normalizeChildren cs⟩) fun _ => rfl
  rw [List.append_nil] at hread
  rw [hsource]
  apply parse_of_build
  rw [tokenize_of_lt hhead, hread, tokensFrom.eq_1]
  rfl

/-- Writing an element and reading it back gives the element with its text joined and empty
text dropped. The name, the attributes in order and every child element are kept, and so are the
text and the raw text of the element; written children between a start tag and an end tag are
read as the normalised children. -/
theorem written_element_reads_back (e : Element) (h : e.toNode.Writable) :
    parse e.toXml = .ok e.normalize ∧
      e.normalize.name = e.name ∧ e.normalize.attributes = e.attributes ∧
      e.normalize.childElements = e.childElements.map Element.normalize ∧
      e.normalize.rawText = e.rawText ∧ e.normalize.text = e.text ∧
      ∀ w, ElementName w → w.toList.getLast? ≠ some '/' →
        parse ("<" ++ w ++ ">" ++ e.inner ++ "</" ++ w ++ ">") = .ok ⟨w, [], e.normalize.children⟩ :=
  ⟨parse_toXml e h, rfl, rfl, e.childElements_normalize, e.rawText_normalize, e.text_normalize,
    fun _ hw hslash => parse_inner hw hslash e h⟩

theorem course_reads_back :
    let e : Element := ⟨"course", [("title", "Tom & \"Jerry\"")],
      [.text "a<b", .text "", .element "module" [] [.text " x "], .text "c"]⟩
    e.toNode.Writable ∧
      (parse e.toXml = .ok e.normalize ∧
        e.normalize.name = e.name ∧ e.normalize.attributes = e.attributes ∧
        e.normalize.childElements = e.childElements.map Element.normalize ∧
        e.normalize.rawText = e.rawText ∧ e.normalize.text = e.text ∧
        ∀ w, ElementName w → w.toList.getLast? ≠ some '/' →
          parse ("<" ++ w ++ ">" ++ e.inner ++ "</" ++ w ++ ">") = .ok ⟨w, [], e.normalize.children⟩) := by
  intro e
  have hmodule : (Node.element "module" [] [.text " x "]).Writable :=
    .element (by decide) (fun _ h => absurd h List.not_mem_nil) List.nodup_nil
      (fun _ _ => by decide) fun c hc => by rw [List.mem_singleton.1 hc]; exact .text _
  have hchildren : ∀ c ∈ [Node.text "a<b", .text "", .element "module" [] [.text " x "], .text "c"],
      c.Writable := by
    intro c hc
    simp only [List.mem_cons, List.not_mem_nil, or_false] at hc
    rcases hc with rfl | rfl | rfl | rfl
    all_goals first | exact .text _ | exact hmodule
  have hcourse : e.toNode.Writable :=
    .element (by decide) (by decide) (by decide) (fun h => absurd h (List.cons_ne_nil _ _)) hchildren
  exact ⟨hcourse, written_element_reads_back e hcourse⟩

/-- A name ending in `/` is read from a start tag that has a blank before `>`; written with no
attributes, its start tag reads as an empty-element tag, and the end tag then closes nothing. -/
theorem slashed_name_not_read_back :
    (parse "<course title=\"C\"><m/ >x</m/></course>").toOption.map Element.toXml =
        some "<course title=\"C\"><m/>x</m/></course>" ∧
      (parse "<course title=\"C\"><m/>x</m/></course>").toBool = false :=
  ⟨by cbv, by cbv⟩

end Courseware.Xml
