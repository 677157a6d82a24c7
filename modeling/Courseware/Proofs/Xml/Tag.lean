import Mathlib
import Courseware.Xml.Document
import Courseware.Proofs.Xml.Escape

/-!
# Reading written tags

A tag is written as `<`, the element's name, each attribute as a blank, its name, `=` and its
escaped value in double quotes (`attrXml`), and `>` or ` />`; an end tag as `</`, the name and
`>`. This file reads such tags back, for names a tag can delimit: an element name with no blank,
quote or `>` whose first character does not open other markup (`ElementName`), attribute names
that are not empty and also have no `=` (`AttributeName`), given pairwise distinct. Both are
decidable, so a given name is checked by computation.

The scan for the end of a tag steps over the attributes, quotes and all (`tagEnd_tag`), so the
markup after `<` is the start tag, empty-element tag or end tag that was written
(`markup_start`, `markup_empty`, `markup_close`). Reading the attributes after the name gives
the written ones, in order and with their values (`rawAttributes_written`), so a written tag
opens the element it was written from (`openElement_written`).
-/

namespace Courseware.Xml

open Utf8 (encode)

/-! ## Names a tag can delimit -/

/-- A character that ends a name inside a tag: a blank, a quote or `>`. -/
def isNameStop (c : Char) : Bool :=
  c == ' ' || c == '\t' || c == '\n' || c == '\r' || c == '"' || c == '\'' || c == '>'

def isNameStopByte (b : UInt8) : Bool :=
  isMarkupBlank b || b == byte '"' || b == byte '\'' || b == byte '>'

def isKeyStop (c : Char) : Bool := isNameStop c || c == '='

def isKeyStopByte (b : UInt8) : Bool := isNameStopByte b || b == byte '='

/-- A first character that makes `<` open other markup than a start tag. -/
def isMarkupOpener (c : Char) : Bool := c == '!' || c == '?' || c == '/'

def isMarkupOpenerByte (b : UInt8) : Bool := b == byte '!' || b == byte '?' || b == byte '/'

/-- A name an element can have in written XML: no character that ends a name in a tag, and a
first character that does not make the tag a declaration, an instruction or an end tag. -/
structure ElementName (n : String) : Prop where
  no_stop : ∀ c ∈ n.toList, isNameStop c = false
  first : ∀ c, n.toList.head? = some c → isMarkupOpener c = false

/-- A name an attribute can have in written XML: not empty, and no character that ends a name
or `=`. -/
structure AttributeName (k : String) : Prop where
  ne_empty : k ≠ ""
  no_stop : ∀ c ∈ k.toList, isKeyStop c = false

theorem elementName_iff {n : String} : ElementName n ↔
    (∀ c ∈ n.toList, isNameStop c = false) ∧ ∀ c ∈ n.toList.head?, isMarkupOpener c = false :=
  ⟨fun h => ⟨h.no_stop, h.first⟩, fun h => ⟨h.1, h.2⟩⟩

-- The instances are given: found by search, `∀ c ∈ l` would be decided over all characters.
instance : DecidablePred ElementName := fun n =>
  @decidable_of_iff _ _ elementName_iff.symm
    (@instDecidableAnd _ _ (List.decidableBAll _ n.toList) (Option.decidableForallMem n.toList.head?))

theorem attributeName_iff {k : String} : AttributeName k ↔
    k ≠ "" ∧ ∀ c ∈ k.toList, isKeyStop c = false :=
  ⟨fun h => ⟨h.ne_empty, h.no_stop⟩, fun h => ⟨h.1, h.2⟩⟩

instance : DecidablePred AttributeName := fun k =>
  @decidable_of_iff _ _ attributeName_iff.symm
    (@instDecidableAnd _ _ inferInstance (List.decidableBAll _ k.toList))

theorem isNameStopByte_ascii : ∀ n < 0x80, isNameStopByte (UInt8.ofNat n) = isNameStop (Char.ofNat n) := by
  decide

theorem isNameStopByte_high : ∀ n < 0x80, isNameStopByte (UInt8.ofNat (n + 0x80)) = false := by
  decide

theorem isKeyStopByte_ascii : ∀ n < 0x80, isKeyStopByte (UInt8.ofNat n) = isKeyStop (Char.ofNat n) := by
  decide

theorem isKeyStopByte_high : ∀ n < 0x80, isKeyStopByte (UInt8.ofNat (n + 0x80)) = false := by
  decide

theorem isMarkupOpenerByte_ascii :
    ∀ n < 0x80, isMarkupOpenerByte (UInt8.ofNat n) = isMarkupOpener (Char.ofNat n) := by
  decide

theorem isMarkupOpenerByte_high : ∀ n < 0x80, isMarkupOpenerByte (UInt8.ofNat (n + 0x80)) = false := by
  decide

theorem ElementName.bytes {n : String} (h : ElementName n) : ∀ b ∈ encode n, isNameStopByte b = false :=
  Utf8.encode_test isNameStopByte_ascii isNameStopByte_high h.no_stop

theorem ElementName.first_byte {n : String} (h : ElementName n) :
    ∀ b, (encode n).head? = some b → isMarkupOpenerByte b = false := by
  intro b hb
  cases hc : n.toList.head? with
  | none =>
    rw [List.head?_eq_none_iff, String.toList_eq_nil_iff] at hc
    rw [hc, Utf8.encode_empty] at hb
    cases hb
  | some c =>
    exact Utf8.head?_encode_test isMarkupOpenerByte_ascii isMarkupOpenerByte_high hc (h.first c hc) b hb

theorem AttributeName.bytes {k : String} (h : AttributeName k) : ∀ b ∈ encode k, isKeyStopByte b = false :=
  Utf8.encode_test isKeyStopByte_ascii isKeyStopByte_high h.no_stop

theorem AttributeName.bytes_ne_nil {k : String} (h : AttributeName k) : encode k ≠ [] :=
  fun hk => h.ne_empty (Utf8.encode_eq_nil_iff.1 hk)

theorem not_stop_of_isNameStopByte {b : UInt8} (h : isNameStopByte b = false) :
    isMarkupBlank b = false ∧ b ≠ byte '"' ∧ b ≠ byte '\'' ∧ b ≠ byte '>' := by
  simp only [isNameStopByte, Bool.or_eq_false_iff, beq_eq_false_iff_ne] at h
  exact ⟨h.1.1.1, h.1.1.2, h.1.2, h.2⟩

theorem not_stop_of_isKeyStopByte {b : UInt8} (h : isKeyStopByte b = false) :
    isNameStopByte b = false ∧ b ≠ byte '=' := by
  simp only [isKeyStopByte, Bool.or_eq_false_iff, beq_eq_false_iff_ne] at h
  exact h

/-! ## Written attributes -/

/-- An attribute as a tag writes it: a blank, the name, `=`, and the escaped value in double
quotes. -/
def attrXml (a : String × String) : String := " " ++ a.1 ++ "=\"" ++ escape a.2 ++ "\""

theorem attrXml_bytes (a : String × String) :
    encode (attrXml a) =
      byte ' ' :: (encode a.1 ++ byte '=' :: byte '"' :: (encode (escape a.2) ++ [byte '"'])) := by
  have hblank : encode " " = [byte ' '] := by rw [Utf8.encode_eq_flatMap]; decide
  have heq : encode "=\"" = [byte '=', byte '"'] := by rw [Utf8.encode_eq_flatMap]; decide
  have hquote : encode "\"" = [byte '"'] := by rw [Utf8.encode_eq_flatMap]; decide
  simp only [attrXml, Utf8.encode_append, hblank, heq, hquote, List.cons_append, List.nil_append,
    List.append_assoc]

def attrsXml (a : List (String × String)) : String := String.join (a.map attrXml)

@[simp] theorem attrsXml_nil_bytes : encode (attrsXml []) = [] := by
  rw [attrsXml, List.map_nil, String.join_nil, Utf8.encode_empty]

theorem attrsXml_cons_bytes (p : String × String) (a : List (String × String)) :
    encode (attrsXml (p :: a)) = encode (attrXml p) ++ encode (attrsXml a) := by
  rw [attrsXml, attrsXml, List.map_cons, String.join_cons, Utf8.encode_append]

/-! ## The end of a tag -/

theorem tagEnd_go_plain {rest : List UInt8} :
    ∀ {xs : List UInt8} (i : Nat), (∀ b ∈ xs, b ≠ byte '>' ∧ b ≠ byte '"' ∧ b ≠ byte '\'') →
      tagEnd.go (xs ++ rest) i none = tagEnd.go rest (i + xs.length) none
  | [], i, _ => rfl
  | b :: xs, i, h => by
    obtain ⟨hgt, hdq, hsq⟩ := h b List.mem_cons_self
    rw [List.cons_append, tagEnd.go, if_neg (by simpa using hgt),
      if_neg (by simp [hdq, hsq]), tagEnd_go_plain (i + 1) fun b hb => h b (List.mem_cons_of_mem _ hb)]
    simp only [List.length_cons]
    congr 1
    omega

theorem tagEnd_go_quoted {q : UInt8} {rest : List UInt8} :
    ∀ {v : List UInt8} (i : Nat), q ∉ v →
      tagEnd.go (v ++ q :: rest) i (some q) = tagEnd.go rest (i + v.length + 1) none
  | [], i, _ => by rw [List.nil_append, tagEnd.go, if_pos (beq_self_eq_true q)]; rfl
  | b :: v, i, h => by
    rw [List.mem_cons, not_or] at h
    rw [List.cons_append, tagEnd.go, if_neg (by simpa using Ne.symm h.1), tagEnd_go_quoted (i + 1) h.2]
    simp only [List.length_cons]
    congr 1
    omega

theorem tagEnd_go_attr (a : String × String) (hk : AttributeName a.1) (rest : List UInt8) (i : Nat) :
    tagEnd.go (encode (attrXml a) ++ rest) i none =
      tagEnd.go rest (i + (encode (attrXml a)).length) none := by
  have hplain : ∀ b ∈ byte ' ' :: (encode a.1 ++ [byte '=']), b ≠ byte '>' ∧ b ≠ byte '"' ∧ b ≠ byte '\'' := by
    intro b hb
    simp only [List.mem_cons, List.mem_append, List.not_mem_nil, or_false] at hb
    rcases hb with rfl | hb | rfl
    · decide
    · obtain ⟨-, hdq, hsq, hgt⟩ := not_stop_of_isNameStopByte (not_stop_of_isKeyStopByte (hk.bytes b hb)).1
      exact ⟨hgt, hdq, hsq⟩
    · decide
  have hsplit : encode (attrXml a) ++ rest =
      (byte ' ' :: (encode a.1 ++ [byte '='])) ++ byte '"' :: (encode (escape a.2) ++ byte '"' :: rest) := by
    rw [attrXml_bytes]
    simp only [List.cons_append, List.nil_append, List.append_assoc]
  rw [hsplit, tagEnd_go_plain i hplain, tagEnd.go, if_neg (by decide), if_pos (by decide),
    tagEnd_go_quoted _ (byte_not_mem_escape (by decide) a.2), attrXml_bytes]
  simp only [List.length_cons, List.length_append]
  congr 1
  omega

theorem tagEnd_go_attrs {rest : List UInt8} :
    ∀ (a : List (String × String)) (i : Nat), (∀ p ∈ a, AttributeName p.1) →
      tagEnd.go (encode (attrsXml a) ++ rest) i none =
        tagEnd.go rest (i + (encode (attrsXml a)).length) none
  | [], i, _ => by rw [attrsXml_nil_bytes]; rfl
  | p :: a, i, h => by
    rw [attrsXml_cons_bytes, List.append_assoc,
      tagEnd_go_attr p (h p List.mem_cons_self), tagEnd_go_attrs a _ fun p hp => h p (List.mem_cons_of_mem _ hp)]
    simp only [List.length_append]
    congr 1
    omega

/-- A tag as written, up to its `>`: a name, attributes and bytes stepped over outside quotes. -/
theorem tagEnd_tag {n : String} {a : List (String × String)} (tail more : List UInt8)
    (hn : ElementName n) (ha : ∀ p ∈ a, AttributeName p.1)
    (htail : ∀ b ∈ tail, b ≠ byte '>' ∧ b ≠ byte '"' ∧ b ≠ byte '\'') :
    tagEnd (encode n ++ encode (attrsXml a) ++ tail ++ byte '>' :: more) =
      some (encode n ++ encode (attrsXml a) ++ tail).length := by
  have hname : ∀ b ∈ encode n, b ≠ byte '>' ∧ b ≠ byte '"' ∧ b ≠ byte '\'' := fun b hb => by
    obtain ⟨-, hdq, hsq, hgt⟩ := not_stop_of_isNameStopByte (hn.bytes b hb)
    exact ⟨hgt, hdq, hsq⟩
  unfold tagEnd
  rw [List.append_assoc, List.append_assoc, tagEnd_go_plain 0 hname, tagEnd_go_attrs a _ ha,
    tagEnd_go_plain _ htail, tagEnd.go, if_pos (beq_self_eq_true _)]
  simp only [List.length_append]
  congr 1
  omega

/-! ## The markup after `<` -/

/-- A tag whose content does not end in `/` and does not open other markup is a start tag. -/
theorem markup_start {tag more : List UInt8} (pos : Nat)
    (hfirst : ∀ b, (tag ++ byte '>' :: more).head? = some b → isMarkupOpenerByte b = false)
    (hend : tagEnd (tag ++ byte '>' :: more) = some tag.length)
    (hlast : tag.getLast? ≠ some (byte '/')) :
    markup (tag ++ byte '>' :: more) pos = (.start tag (pos + tag.length + 1), some (tag.length + 1)) := by
  rw [markup.eq_def]
  split
  · next h => exact absurd h (by simp)
  · next b rest h =>
    have hb := hfirst b (by rw [h]; rfl)
    simp only [isMarkupOpenerByte, Bool.or_eq_false_iff] at hb
    simp only [hb.1.1, hb.1.2, hb.2, Bool.false_eq_true, if_false, hend, List.take_left]
    rw [if_neg (by simpa using hlast)]

/-- A tag whose content ends in `/`, after a name with no blank and a blank, is an empty-element
tag of that name. -/
theorem markup_empty {name body more : List UInt8} (pos : Nat)
    (hfirst : ∀ b, (name ++ body ++ byte '/' :: byte '>' :: more).head? = some b →
      isMarkupOpenerByte b = false)
    (hend : tagEnd (name ++ body ++ byte '/' :: byte '>' :: more) = some ((name ++ body).length + 1))
    (hname : ∀ b ∈ name, isMarkupBlank b = false) (hbody : body.head? = some (byte ' ')) :
    markup (name ++ body ++ byte '/' :: byte '>' :: more) pos =
      (.empty (name ++ body) name.length (pos + (name ++ body).length + 2),
        some ((name ++ body).length + 2)) := by
  have hbs : name ++ body ++ byte '/' :: byte '>' :: more =
      (name ++ body ++ [byte '/']) ++ byte '>' :: more := by simp
  have hlen : (name ++ body ++ [byte '/']).length = (name ++ body).length + 1 := by
    simp only [List.length_append, List.length_singleton]
  have hnameEnd : ((name ++ body ++ [byte '/']).takeWhile (!isMarkupBlank ·)).length = name.length := by
    obtain ⟨body', rfl⟩ : ∃ body', body = byte ' ' :: body' := by
      cases body with
      | nil => cases hbody
      | cons b body' => cases hbody; exact ⟨body', rfl⟩
    rw [List.append_assoc, List.takeWhile_append_of_pos (by simpa using hname),
      List.cons_append, List.takeWhile_cons_of_neg (by decide), List.append_nil]
  have hbody_ne : body ≠ [] := by rintro rfl; cases hbody
  rw [hbs] at hend hfirst ⊢
  rw [markup.eq_def]
  split
  · next h => exact absurd h (by simp)
  · next b rest h =>
    have hb := hfirst b (by rw [h]; rfl)
    simp only [isMarkupOpenerByte, Bool.or_eq_false_iff] at hb
    simp only [hb.1.1, hb.1.2, hb.2, Bool.false_eq_true, if_false, hend]
    rw [← hlen, List.take_left, if_pos (by simp), hnameEnd, hlen, Nat.add_sub_cancel,
      List.take_left' (by simp), if_pos (by simp only [List.length_append]; omega)]
    simp only [Nat.add_assoc]

/-- An end tag whose name has no blank. -/
theorem markup_close {name more : List UInt8} (pos : Nat)
    (hend : tagEnd (byte '/' :: (name ++ byte '>' :: more)) = some (name.length + 1))
    (hname : ∀ b ∈ name, isMarkupBlank b = false) :
    markup (byte '/' :: (name ++ byte '>' :: more)) pos =
      (.close name (pos + name.length + 2), some (name.length + 2)) := by
  have htrim : (name.reverse.dropWhile isMarkupBlank).reverse = name := by
    cases hr : name.reverse with
    | nil => rw [List.reverse_eq_nil_iff.1 hr]; rfl
    | cons b bs =>
      have hb : isMarkupBlank b = false := hname b (List.mem_reverse.1 (hr ▸ List.mem_cons_self))
      rw [List.dropWhile_cons_of_neg (by simp [hb]), ← hr, List.reverse_reverse]
  rw [markup.eq_def]
  simp only [if_neg (show ¬ (byte '/' == byte '!') = true by decide),
    if_neg (show ¬ (byte '/' == byte '?') = true by decide), hend, beq_self_eq_true, if_true]
  rw [show byte '/' :: (name ++ byte '>' :: more) = (byte '/' :: name) ++ byte '>' :: more from rfl,
    List.take_left' (by simp), List.drop_one, List.tail_cons, htrim]
  simp only [Nat.add_assoc]

/-! ## Reading attributes

Positions inside a tag are indices into its content; each fact below reads the content from an
index on, through `List.drop`. -/

theorem findFrom_eq (bs : List UInt8) (p : UInt8 → Bool) (i : Nat) :
    findFrom bs p i = ((bs.drop i).findIdx? p).map (· + i) := by
  unfold findFrom
  -- induction on the number of indices left to search
  generalize hn : bs.length - i = n
  induction n generalizing i with
  | zero =>
    rw [List.drop_eq_nil_of_le (by omega)]
    rfl
  | succ n ih =>
    have hi : i < bs.length := by omega
    have hshift : ((List.range n).map Nat.succ).map (· + i) = (List.range n).map (· + (i + 1)) := by
      rw [List.map_map]
      exact List.map_congr_left fun j _ => by simp only [Function.comp_apply]; omega
    rw [List.range_succ_eq_map, List.map_cons, hshift, List.find?_cons, List.drop_eq_getElem_cons hi,
      List.findIdx?_cons, Nat.zero_add, List.getElem?_eq_getElem hi, Option.map_some, Option.getD_some,
      ih (i + 1) (by omega)]
    cases p bs[i] with
    | true => simp
    | false =>
      simp only [Bool.false_eq_true, if_false, Option.map_map]
      congr 1
      funext j
      simp only [Function.comp_apply]
      omega

theorem findFrom_of_drop {bs xs rest : List UInt8} {p : UInt8 → Bool} {b : UInt8} {i : Nat}
    (hdrop : bs.drop i = xs ++ b :: rest) (hxs : ∀ x ∈ xs, p x = false) (hb : p b = true) :
    findFrom bs p i = some (i + xs.length) := by
  rw [findFrom_eq, hdrop, List.findIdx?_append, List.findIdx?_eq_none_iff.2 hxs, List.findIdx?_cons,
    if_pos hb]
  simp only [Option.none_or, Option.map_some]
  congr 1
  omega

theorem findFrom_of_drop_head {bs rest : List UInt8} {p : UInt8 → Bool} {b : UInt8} {i : Nat}
    (hdrop : bs.drop i = b :: rest) (hb : p b = true) : findFrom bs p i = some i :=
  findFrom_of_drop (hdrop.trans (List.nil_append _).symm) (fun _ h => absurd h List.not_mem_nil) hb

theorem findFrom_of_drop_none {bs tail : List UInt8} {p : UInt8 → Bool} {i : Nat}
    (hdrop : bs.drop i = tail) (h : ∀ x ∈ tail, p x = false) : findFrom bs p i = none := by
  rw [findFrom_eq, hdrop, List.findIdx?_eq_none_iff.2 h]
  rfl

theorem byteAt_of_drop {bs rest : List UInt8} {b : UInt8} {i : Nat} (hdrop : bs.drop i = b :: rest) :
    byteAt bs i = b := by
  rw [byteAt, ← List.head?_drop, hdrop]
  rfl

theorem slice_of_drop {bs xs rest : List UInt8} {i : Nat} (hdrop : bs.drop i = xs ++ rest) :
    slice bs i (i + xs.length) = xs := by
  rw [slice, hdrop, Nat.add_sub_cancel_left, List.take_left]

theorem drop_succ_of_drop {bs rest : List UInt8} {b : UInt8} {i : Nat} (hdrop : bs.drop i = b :: rest) :
    bs.drop (i + 1) = rest := by
  rw [← List.drop_drop, hdrop]
  rfl

theorem drop_add_of_drop {bs xs rest : List UInt8} {i : Nat} (hdrop : bs.drop i = xs ++ rest) :
    bs.drop (i + xs.length) = rest := by
  rw [← List.drop_drop, hdrop, List.drop_left]

theorem valueAfterEq_written {bs ev post : List UInt8} {e : Nat} (hq : byte '"' ∉ ev)
    (hdrop : bs.drop (e + 1) = byte '"' :: (ev ++ byte '"' :: post)) :
    valueAfterEq bs e = .ok (ev, e + 1 + 1 + ev.length + 1) := by
  have hopen : findFrom bs (!isMarkupBlank ·) (e + 1) = some (e + 1) :=
    findFrom_of_drop_head hdrop (by decide)
  have hclose : findFrom bs (· == byte '"') (e + 1 + 1) = some (e + 1 + 1 + ev.length) :=
    findFrom_of_drop (drop_succ_of_drop hdrop)
      (fun x hx => by rw [beq_eq_false_iff_ne]; rintro rfl; exact hq hx) (beq_self_eq_true _)
  rw [valueAfterEq, hopen]
  simp only [byteAt_of_drop hdrop, beq_self_eq_true, Bool.true_or, if_true]
  rw [quotedValue, byteAt_of_drop hdrop, hclose]
  dsimp only
  rw [slice_of_drop (drop_succ_of_drop hdrop)]

/-- A written attribute is read as its name and its escaped value, when no attribute read before
has its name; reading goes on after the value's closing quote. -/
theorem nextAttribute_written {bs pre post : List UInt8} {seen : List RawAttribute}
    {a : String × String} (hk : AttributeName a.1) (hseen : ∀ r ∈ seen, r.name ≠ encode a.1)
    (hbs : bs = pre ++ (encode (attrXml a) ++ post)) :
    nextAttribute bs seen pre.length =
      some (.ok (⟨pre.length + 1, encode a.1, encode (escape a.2)⟩,
        (pre ++ encode (attrXml a)).length)) := by
  obtain ⟨k0, ks, hks⟩ := List.exists_cons_of_ne_nil hk.bytes_ne_nil
  have hkey : ∀ b ∈ encode a.1, isMarkupBlank b = false ∧ b ≠ byte '=' := fun b hb => by
    obtain ⟨hname, heq⟩ := not_stop_of_isKeyStopByte (hk.bytes b hb)
    exact ⟨(not_stop_of_isNameStopByte hname).1, heq⟩
  have d0 : bs.drop pre.length =
      byte ' ' :: (encode a.1 ++ byte '=' :: byte '"' :: (encode (escape a.2) ++ byte '"' :: post)) := by
    rw [hbs, List.drop_left, attrXml_bytes]
    simp only [List.cons_append, List.nil_append, List.append_assoc]
  have d1 := drop_succ_of_drop d0
  have d2 : bs.drop (pre.length + 1 + 1) =
      ks ++ byte '=' :: byte '"' :: (encode (escape a.2) ++ byte '"' :: post) := by
    rw [hks] at d1
    exact drop_succ_of_drop d1
  have d3 := drop_add_of_drop d1
  have d4 := drop_succ_of_drop d3
  have hs : findFrom bs (!isMarkupBlank ·) pre.length = some (pre.length + 1) := by
    have hk0 : isMarkupBlank k0 = false := (hkey k0 (by rw [hks]; exact List.mem_cons_self)).1
    have d0' : bs.drop pre.length = [byte ' '] ++ k0 ::
        (ks ++ byte '=' :: byte '"' :: (encode (escape a.2) ++ byte '"' :: post)) := by
      rw [d0, hks]
      rfl
    exact findFrom_of_drop d0' (forall_mem_of_all (by decide)) (by simp [hk0])
  have he : findFrom bs (fun b => b == byte '=' || isMarkupBlank b) (pre.length + 1 + 1) =
      some (pre.length + 1 + (encode a.1).length) := by
    have hks' : ∀ x ∈ ks, (x == byte '=' || isMarkupBlank x) = false := fun x hx => by
      obtain ⟨hblank, heq⟩ := hkey x (by rw [hks]; exact List.mem_cons_of_mem _ hx)
      simp [hblank, heq]
    rw [findFrom_of_drop d2 hks' (by decide), hks, List.length_cons]
    congr 1
    omega
  have hfind : seen.find? (·.name == encode a.1) = none :=
    List.find?_eq_none.2 fun r hr => by simpa using hseen r hr
  rw [nextAttribute, hs, Option.map_some]
  dsimp only
  rw [he]
  dsimp only
  rw [slice_of_drop d1, hfind]
  dsimp only
  rw [byteAt_of_drop d3, if_pos (beq_self_eq_true _),
    valueAfterEq_written (byte_not_mem_escape (by decide) a.2) d4]
  simp only [bind, Except.bind, pure, Except.pure, attrXml_bytes, List.length_append,
    List.length_cons, List.length_nil]
  congr 3
  omega

theorem attributesFrom_written {post : List UInt8} (hpost : ∀ b ∈ post, isMarkupBlank b = true) :
    ∀ (a : List (String × String)) (pre : List UInt8) (fuel : Nat) (seen : List RawAttribute),
      (∀ p ∈ a, AttributeName p.1) → (a.map Prod.fst).Nodup →
      (∀ r ∈ seen, ∀ p ∈ a, r.name ≠ encode p.1) → a.length ≤ fuel →
      ∃ raws, attributesFrom (pre ++ (encode (attrsXml a) ++ post)) fuel pre.length seen =
          (seen.reverse ++ raws, none) ∧
        raws.map (fun r => (r.name, r.value)) = a.map fun p => (encode p.1, encode (escape p.2))
  | [], pre, fuel, seen, _, _, _, _ => by
    refine ⟨[], ?_, rfl⟩
    cases fuel with
    | zero => rw [attributesFrom, List.append_nil]
    | succ fuel =>
      have hnone : nextAttribute (pre ++ (encode (attrsXml []) ++ post)) seen pre.length = none := by
        have hdrop : (pre ++ (encode (attrsXml []) ++ post)).drop pre.length = post := by
          rw [attrsXml_nil_bytes, List.nil_append, List.drop_left]
        rw [nextAttribute, findFrom_of_drop_none hdrop fun x hx => by simp [hpost x hx]]
        rfl
      rw [attributesFrom, hnone, List.append_nil]
  | p :: a, pre, fuel, seen, hnames, hnodup, hseen, hfuel => by
    obtain ⟨fuel, rfl⟩ : ∃ f, fuel = f + 1 := ⟨fuel - 1, by simp only [List.length_cons] at hfuel; omega⟩
    rw [List.map_cons, List.nodup_cons] at hnodup
    have hbs : pre ++ (encode (attrsXml (p :: a)) ++ post) =
        pre ++ (encode (attrXml p) ++ (encode (attrsXml a) ++ post)) := by
      rw [attrsXml_cons_bytes, List.append_assoc]
    have hnext := nextAttribute_written (hnames p List.mem_cons_self)
      (fun r hr => hseen r hr p List.mem_cons_self) hbs
    have hseen' : ∀ r ∈ (⟨pre.length + 1, encode p.1, encode (escape p.2)⟩ :: seen : List RawAttribute),
        ∀ q ∈ a, r.name ≠ encode q.1 := by
      intro r hr q hq
      rcases List.mem_cons.1 hr with rfl | hr
      · intro heq
        exact hnodup.1 (List.mem_map.2 ⟨q, hq, (Utf8.encode_injective heq).symm⟩)
      · exact hseen r hr q (List.mem_cons_of_mem _ hq)
    obtain ⟨raws, hread, hmap⟩ := attributesFrom_written hpost a (pre ++ encode (attrXml p)) fuel _
      (fun q hq => hnames q (List.mem_cons_of_mem _ hq)) hnodup.2 hseen'
      (by simp only [List.length_cons] at hfuel; omega)
    refine ⟨⟨pre.length + 1, encode p.1, encode (escape p.2)⟩ :: raws, ?_, ?_⟩
    · rw [attributesFrom, hnext]
      dsimp only
      rw [hbs, ← List.append_assoc pre, hread, List.reverse_cons, List.append_assoc,
        List.singleton_append]
    · rw [List.map_cons, hmap, List.map_cons]

theorem length_le_attrs_bytes (a : List (String × String)) :
    a.length ≤ (encode (attrsXml a)).length := by
  induction a with
  | nil => exact Nat.zero_le _
  | cons p a ih =>
    rw [attrsXml_cons_bytes, List.length_append, attrXml_bytes,
      List.length_cons, List.length_cons]
    omega

/-- The attributes after a name: those written, in order, and no error. -/
theorem rawAttributes_written (name : List UInt8) {a : List (String × String)} {post : List UInt8}
    (ha : ∀ p ∈ a, AttributeName p.1) (hnodup : (a.map Prod.fst).Nodup)
    (hpost : ∀ b ∈ post, isMarkupBlank b = true) :
    ∃ raws, rawAttributes (name ++ (encode (attrsXml a) ++ post)) name.length =
        (raws, none) ∧
      raws.map (fun r => (r.name, r.value)) = a.map fun p => (encode p.1, encode (escape p.2)) := by
  have hfuel : a.length ≤ (name ++ (encode (attrsXml a) ++ post)).length := by
    have := length_le_attrs_bytes a
    simp only [List.length_append]
    omega
  obtain ⟨raws, hread, hmap⟩ :=
    attributesFrom_written hpost a name _ [] ha hnodup (fun _ h => absurd h List.not_mem_nil) hfuel
  exact ⟨raws, hread, hmap⟩

theorem mapM_written {f : RawAttribute → Except Located (String × String)} :
    ∀ (raws : List RawAttribute) (a : List (String × String)),
      raws.map (fun r => (r.name, r.value)) = a.map (fun p => (encode p.1, encode (escape p.2))) →
      (∀ (r : RawAttribute) (p : String × String), r.name = encode p.1 →
        r.value = encode (escape p.2) → f r = .ok p) →
      raws.mapM f = .ok a
  | [], [], _, _ => rfl
  | r :: raws, p :: a, h, hf => by
    rw [List.map_cons, List.map_cons, List.cons.injEq, Prod.mk.injEq] at h
    obtain ⟨⟨hname, hvalue⟩, hrest⟩ := h
    rw [List.mapM_cons, hf r p hname hvalue, mapM_written raws a hrest hf]
    rfl
  | [], _ :: _, h, _ => by cases h
  | _ :: _, [], h, _ => by cases h

/-- A written tag opens the element it was written from, with no children yet. -/
theorem openElement_written {n : String} {a : List (String × String)} {post : List UInt8}
    (ha : ∀ p ∈ a, AttributeName p.1) (hnodup : (a.map Prod.fst).Nodup)
    (hpost : ∀ b ∈ post, isMarkupBlank b = true) (pos : Nat) :
    openElement (encode n ++ (encode (attrsXml a) ++ post)) (encode n).length pos =
      .ok ⟨encode n, n, a, []⟩ := by
  obtain ⟨raws, hread, hmap⟩ := rawAttributes_written (encode n) ha hnodup hpost
  rw [openElement]
  simp only [List.take_left, hread]
  rw [mapM_written raws a hmap]
  · simp only [bind, Except.bind, pure, Except.pure, Utf8.decode_encode]
  · intro r p hname hvalue
    rw [hvalue, unescape_escape, hname, Utf8.decode_encode]

/-! ## Written tags -/

theorem attrsXml_head {a : List (String × String)} (h : a ≠ []) :
    (encode (attrsXml a)).head? = some (byte ' ') := by
  obtain ⟨p, a, rfl⟩ := List.exists_cons_of_ne_nil h
  rw [attrsXml_cons_bytes, attrXml_bytes]
  rfl

theorem attrsXml_getLast {a : List (String × String)} (h : a ≠ []) :
    (encode (attrsXml a)).getLast? = some (byte '"') := by
  induction a with
  | nil => exact absurd rfl h
  | cons p a ih =>
    rw [attrsXml_cons_bytes, List.getLast?_append]
    by_cases ha : a = []
    · subst ha
      rw [attrsXml_nil_bytes, attrXml_bytes, List.getLast?_nil, Option.none_or,
        show byte ' ' :: (encode p.1 ++ byte '=' :: byte '"' :: (encode (escape p.2) ++ [byte '"'])) =
          (byte ' ' :: (encode p.1 ++ byte '=' :: byte '"' :: encode (escape p.2))) ++ [byte '"'] by simp,
        List.getLast?_concat]
    · rw [ih ha]
      rfl

theorem ElementName.no_blank {n : String} (h : ElementName n) : ∀ b ∈ encode n, isMarkupBlank b = false :=
  fun b hb => (not_stop_of_isNameStopByte (h.bytes b hb)).1

theorem takeWhile_name {name rest : List UInt8} (hname : ∀ b ∈ name, isMarkupBlank b = false)
    (hrest : ∀ b, rest.head? = some b → isMarkupBlank b = true) :
    ((name ++ rest).takeWhile (!isMarkupBlank ·)).length = name.length := by
  rw [List.takeWhile_append_of_pos (by simpa using hname)]
  cases rest with
  | nil => simp
  | cons b rest => simp [hrest b rfl]

theorem tag_first_byte {n : String} {a : List (String × String)} (hn : ElementName n)
    (tail : List UInt8) (htail : ∀ b, tail.head? = some b → isMarkupOpenerByte b = false) :
    ∀ b, (encode n ++ encode (attrsXml a) ++ tail).head? = some b → isMarkupOpenerByte b = false := by
  intro b hb
  cases hname : (encode n).head? with
  | some b' =>
    rw [List.append_assoc, List.head?_append, hname, Option.some_or] at hb
    cases hb
    exact hn.first_byte b hname
  | none =>
    rw [List.append_assoc, List.head?_append, hname, Option.none_or, List.head?_append] at hb
    by_cases ha : a = []
    · subst ha
      rw [attrsXml_nil_bytes, List.head?_nil, Option.none_or] at hb
      exact htail b hb
    · rw [attrsXml_head ha, Option.some_or] at hb
      cases hb
      rfl

theorem markup_written_start {n : String} {a : List (String × String)} (hn : ElementName n)
    (ha : ∀ p ∈ a, AttributeName p.1) (hslash : a = [] → n.toList.getLast? ≠ some '/')
    (more : List UInt8) (pos : Nat) :
    markup (encode n ++ encode (attrsXml a) ++ byte '>' :: more) pos =
      (.start (encode n ++ encode (attrsXml a)) (pos + (encode n ++ encode (attrsXml a)).length + 1),
        some ((encode n ++ encode (attrsXml a)).length + 1)) := by
  have hend := tagEnd_tag [] more hn ha (fun _ h => absurd h List.not_mem_nil)
  rw [List.append_nil] at hend
  refine markup_start pos ?_ hend ?_
  · exact tag_first_byte hn _ fun b hb => by cases hb; rfl
  · -- the tag ends with the last quote of its attributes, or with its name
    by_cases ha' : a = []
    · subst ha'
      rw [attrsXml_nil_bytes, List.append_nil]
      intro hlast
      cases hc : n.toList.getLast? with
      | none =>
        rw [List.getLast?_eq_none_iff, String.toList_eq_nil_iff] at hc
        rw [hc, Utf8.encode_empty] at hlast
        cases hlast
      | some c =>
        have hc' : (c == '/') = false := by
          rw [beq_eq_false_iff_ne]
          rintro rfl
          exact hslash rfl hc
        have := Utf8.getLast?_encode_test (p := (· == byte '/')) (q := (· == '/'))
          (by decide) (by decide) hc hc' _ hlast
        exact absurd (beq_self_eq_true _) (by rw [this]; decide)
    · rw [List.getLast?_append, attrsXml_getLast ha']
      intro h
      cases h

theorem markup_written_empty {n : String} {a : List (String × String)} (hn : ElementName n)
    (ha : ∀ p ∈ a, AttributeName p.1) (more : List UInt8) (pos : Nat) :
    markup (encode n ++ encode (attrsXml a) ++ byte ' ' :: byte '/' :: byte '>' :: more) pos =
      (.empty (encode n ++ (encode (attrsXml a) ++ [byte ' '])) (encode n).length
        (pos + (encode n ++ (encode (attrsXml a) ++ [byte ' '])).length + 2),
        some ((encode n ++ (encode (attrsXml a) ++ [byte ' '])).length + 2)) := by
  have hshape : encode n ++ encode (attrsXml a) ++ byte ' ' :: byte '/' :: byte '>' :: more =
      encode n ++ (encode (attrsXml a) ++ [byte ' ']) ++ byte '/' :: byte '>' :: more := by simp
  have hend := tagEnd_tag [byte ' ', byte '/'] more hn ha (forall_mem_of_all (by decide))
  have hend' : tagEnd (encode n ++ (encode (attrsXml a) ++ [byte ' ']) ++ byte '/' :: byte '>' :: more) =
      some ((encode n ++ (encode (attrsXml a) ++ [byte ' '])).length + 1) := by
    rw [← hshape, show encode n ++ encode (attrsXml a) ++ byte ' ' :: byte '/' :: byte '>' :: more =
      encode n ++ encode (attrsXml a) ++ [byte ' ', byte '/'] ++ byte '>' :: more by simp, hend]
    simp only [List.length_append, List.length_cons, List.length_nil]
    congr 1
  have hbody : (encode (attrsXml a) ++ [byte ' ']).head? = some (byte ' ') := by
    by_cases ha' : a = []
    · subst ha'
      rw [attrsXml_nil_bytes]
      rfl
    · rw [List.head?_append, attrsXml_head ha']
      rfl
  rw [hshape]
  refine markup_empty pos ?_ hend' hn.no_blank hbody
  rw [← hshape]
  exact tag_first_byte hn _ fun b hb => by cases hb; rfl

theorem markup_written_close {n : String} (hn : ElementName n) (more : List UInt8) (pos : Nat) :
    markup (byte '/' :: (encode n ++ byte '>' :: more)) pos =
      (.close (encode n) (pos + (encode n).length + 2), some ((encode n).length + 2)) := by
  have hplain : ∀ b ∈ byte '/' :: encode n, b ≠ byte '>' ∧ b ≠ byte '"' ∧ b ≠ byte '\'' := by
    intro b hb
    rcases List.mem_cons.1 hb with rfl | hb
    · decide
    · obtain ⟨-, hdq, hsq, hgt⟩ := not_stop_of_isNameStopByte (hn.bytes b hb)
      exact ⟨hgt, hdq, hsq⟩
  refine markup_close pos ?_ hn.no_blank
  unfold tagEnd
  rw [show byte '/' :: (encode n ++ byte '>' :: more) = (byte '/' :: encode n) ++ byte '>' :: more from rfl,
    tagEnd_go_plain 0 hplain, tagEnd.go, if_pos (beq_self_eq_true _), List.length_cons,
    Nat.zero_add]

end Courseware.Xml
