import Pipa.Lib.JsonOrder
import Pipa.Mobile.RecordLayer

/- What `JSONSerialization` writes with `.sortedKeys` and `.withoutEscapingSlashes`: an object as its members in the
   order of their names, each with the text of its value.

   A member ends where the next begins (`Cuts`), so objects with the same names have the same text only where their
   values have (`objectText_inj`), and the text of a string tells its characters (`string_eq`). -/
namespace Pipa.Mobile
open Pipa.Lib Pipa.Lib.JsonGrammar
open Pipa.Secure (Plain literal isIdentifier)
open Pipa.Core (names)

/-! ## Texts -/

/-- The members behind the first, and the end of the object. -/
def laterMembers : List (String × Bytes) → Bytes
  | [] => literal "\x7d"
  | e :: later => literal (",\"" ++ e.1 ++ "\":") ++ (e.2 ++ laterMembers later)

/-- An object without spaces, of names and the texts of their values. -/
def objectText : List (String × Bytes) → Bytes
  | [] => literal "\x7b\x7d"
  | e :: later => literal ("\x7b\"" ++ e.1 ++ "\":") ++ (e.2 ++ laterMembers later)

/-- The texts of the fields of these names. -/
def memberTexts (json : Value → Option Bytes) (o : Object) (fields : List String) : Option (List (String × Bytes)) :=
  fields.mapM (fun name => ((o.get? (PyStr.ofString name)).bind json).map (fun text => (name, text)))

def quotedText (s : PyStr) : Bytes := literal "\"" ++ (s.bytes ++ literal "\"")

/-- In the order of their characters. -/
def Before (a b : PyStr) : Prop := PyStr.le a b = true ∧ a ≠ b

instance : DecidableRel Before := fun a b => inferInstanceAs (Decidable (PyStr.le a b = true ∧ a ≠ b))

/-- What `Foundation` documents of `.sortedKeys` and `.withoutEscapingSlashes`, where `json` is the text of a value:
an object is written without spaces and with its names in order (where they are of small letters and underscores),
a string as one of RFC 8259, letters and digits of ASCII as they are, and a number without a comma. -/
structure Codec.Writes (c : Codec) (json : Value → Option Bytes) : Prop where
  object : ∀ (o : Object) (fields : List String), o.keys.Nodup → (names fields).Pairwise Before →
    (∀ name ∈ fields, ∀ ch ∈ PyStr.ofString name, (0x61 ≤ ch.val ∧ ch.val ≤ 0x7A) ∨ ch.val = 0x5F) →
    (∀ k, k ∈ o.keys ↔ k ∈ names fields) → c.canonicalJSON o = (memberTexts json o fields).map objectText
  string : ∀ s text, json (.str s) = some text → ∃ p : Pieces, text = quoted p ∧ p.chars = s
  plain : ∀ s, Plain s → json (.str s) = some (quotedText s)
  integer : ∀ n : Nat, n < 2 ^ 64 → json (.int n) = some (literal (toString n))
  number : ∀ v n text, number c.toPlatform v = some n → json v = some text → 0x2C ∉ text

/-! ## Cutting a text -/

theorem memberTexts_eq_some {json : Value → Option Bytes} {o : Object} {fields : List String}
    {texts : List (String × Bytes)} : memberTexts json o fields = some texts ↔
      texts.map Prod.fst = fields ∧ ∀ e ∈ texts, (o.get? (PyStr.ofString e.1)).bind json = some e.2 := by
  induction fields generalizing texts with
  | nil =>
    rw [memberTexts, List.mapM_nil]
    constructor
    · intro h
      obtain rfl := Option.some.inj h
      exact ⟨rfl, List.forall_mem_nil _⟩
    · rintro ⟨h, -⟩
      rw [List.map_eq_nil_iff.mp h]
      rfl
  | cons name fields ih =>
    have hcons : memberTexts json o (name :: fields) =
        (((o.get? (PyStr.ofString name)).bind json).map (fun text => (name, text))).bind
          (fun e => (memberTexts json o fields).map (fun later => e :: later)) := by
      simp only [memberTexts, List.mapM_cons, Option.bind_eq_bind, Option.pure_def, Option.map_eq_bind,
        Function.comp_def]
    rw [hcons, Option.bind_eq_some_iff]
    constructor
    · rintro ⟨e, he, hlater⟩
      obtain ⟨text, htext, rfl⟩ := Option.map_eq_some_iff.mp he
      obtain ⟨later, hsome, rfl⟩ := Option.map_eq_some_iff.mp hlater
      obtain ⟨hnames, hall⟩ := ih.mp hsome
      exact ⟨congrArg (name :: ·) hnames, List.forall_mem_cons.mpr ⟨htext, hall⟩⟩
    · rintro ⟨hnames, hall⟩
      obtain ⟨e, later, rfl, rfl, hlater⟩ := List.map_eq_cons_iff.mp hnames
      obtain ⟨hfirst, hall⟩ := List.forall_mem_cons.mp hall
      exact ⟨e, Option.map_eq_some_iff.mpr ⟨e.2, hfirst, rfl⟩,
        Option.map_eq_some_iff.mpr ⟨later, ih.mpr ⟨hlater, hall⟩, rfl⟩⟩

/-- Two texts that end where the next member begins. -/
def Cuts (e e' : String × Bytes) : Prop :=
  e.1 = e'.1 ∧ (((∃ p, e.2 = quoted p) ∧ ∃ p, e'.2 = quoted p) ∨ (0x2C ∉ e.2 ∧ 0x2C ∉ e'.2))

theorem quoted_cut {p q : Pieces} {r r' : Bytes} (h : quoted p ++ r = quoted q ++ r') :
    quoted p = quoted q ∧ r = r' := by
  have hp : quoted p ++ r = 0x22 :: (p.text ++ 0x22 :: r) := by simp [quoted]
  have hq : quoted q ++ r' = 0x22 :: (q.text ++ 0x22 :: r') := by simp [quoted]
  rw [hp, hq, List.cons.injEq] at h
  have hclosing := PipaStrictJSONParser.closingQuote_pieces p r
  rw [h.2, PipaStrictJSONParser.closingQuote_pieces, Option.some.injEq, Prod.mk.injEq] at hclosing
  exact ⟨by rw [quoted, quoted, hclosing.1], hclosing.2.symm⟩

theorem literal_append (a b : String) : literal (a ++ b) = literal a ++ literal b := by
  rw [literal, PyStr.ofString_append, PyStr.bytes_append]
  rfl

theorem laterMembers_head (e : String × Bytes) (later : List (String × Bytes)) :
    (laterMembers (e :: later)).head? = some 0x2C := by
  have hcomma : literal ",\"" = [0x2C, 0x22] := by decide
  rw [laterMembers, literal_append, literal_append, hcomma]
  rfl

theorem Cuts.cut {e e' : String × Bytes} {later later' : List (String × Bytes)} (h : Cuts e e')
    (hlater : List.Forall₂ Cuts later later')
    (heq : e.2 ++ laterMembers later = e'.2 ++ laterMembers later') :
    e.2 = e'.2 ∧ laterMembers later = laterMembers later' := by
  obtain ⟨⟨p, hp⟩, q, hq⟩ | ⟨hcomma, hcomma'⟩ := h.2
  · rw [hp, hq] at heq ⊢
    exact quoted_cut heq
  -- a number ends at the comma of the next member, or with the object
  · cases hlater with
    | nil => exact ⟨List.append_cancel_right heq, rfl⟩
    | cons hnext hrest =>
      exact Secure.field_inj (laterMembers_head _ _) (laterMembers_head _ _) hcomma hcomma' heq

theorem laterMembers_inj {texts texts' : List (String × Bytes)} (hcuts : List.Forall₂ Cuts texts texts')
    (h : laterMembers texts = laterMembers texts') : texts = texts' := by
  induction hcuts with
  | nil => rfl
  | cons hcut hlater ih =>
    rw [laterMembers, laterMembers, hcut.1] at h
    obtain ⟨htext, hrest⟩ := hcut.cut hlater (List.append_cancel_left h)
    rw [ih hrest, Prod.ext hcut.1 htext]

/-- Objects with the same names in the same order have the same text only where their values have. -/
theorem objectText_inj {texts texts' : List (String × Bytes)} (hcuts : List.Forall₂ Cuts texts texts')
    (h : objectText texts = objectText texts') : texts = texts' := by
  cases hcuts with
  | nil => rfl
  | cons hcut hlater =>
    rw [objectText, objectText, hcut.1] at h
    obtain ⟨htext, hrest⟩ := hcut.cut hlater (List.append_cancel_left h)
    rw [laterMembers_inj hlater hrest, Prod.ext hcut.1 htext]

theorem plain_clean {s : PyStr} (hs : Plain s) : s.Clean := by
  intro ch hch
  have hbounds := Secure.idCode_bounds (hs ch hch)
  rw [CodePoint.isSurrogate, Bool.and_eq_false_iff, decide_eq_false_iff_not]
  left
  omega

theorem quotedText_eq {s : PyStr} (hs : Plain s) : quotedText s = (dumpStr s).bytes := by
  rw [hs.dumpStr, PyStr.bytes_append, PyStr.bytes_append, quotedText]
  rfl

theorem quotedText_pieces {s : PyStr} (hs : Plain s) : ∃ p : Pieces, quotedText s = quoted p ∧ p.chars = s := by
  obtain ⟨p, hp, hchars⟩ := dumpStr_spelt (plain_clean hs)
  exact ⟨p, (quotedText_eq hs).trans hp.symm, hchars⟩

theorem cuts_of_names {texts texts' : List (String × Bytes)} (hnames : texts.map Prod.fst = texts'.map Prod.fst)
    (hall : ∀ e' ∈ texts', ∀ e ∈ texts, e.1 = e'.1 → Cuts e e') : List.Forall₂ Cuts texts texts' := by
  induction texts' generalizing texts with
  | nil =>
    obtain rfl := List.map_eq_nil_iff.mp hnames
    exact .nil
  | cons e' later' ih =>
    obtain ⟨e, later, rfl, hname, hlater⟩ := List.map_eq_cons_iff.mp hnames
    refine .cons (hall e' List.mem_cons_self e List.mem_cons_self hname) (ih hlater ?_)
    intro d' hd' d hd
    exact hall d' (List.mem_cons_of_mem _ hd') d (List.mem_cons_of_mem _ hd)

/-! ## The codec -/

section
variable {c : Codec} {json : Value → Option Bytes}

theorem Codec.Writes.eq (hw : c.Writes json) {o : Object} {texts : List (String × Bytes)} (hnodup : o.keys.Nodup)
    (hsorted : (names (texts.map Prod.fst)).Pairwise Before)
    (hsmall : ∀ name ∈ texts.map Prod.fst, ∀ ch ∈ PyStr.ofString name,
      (0x61 ≤ ch.val ∧ ch.val ≤ 0x7A) ∨ ch.val = 0x5F)
    (hkeys : ∀ k, k ∈ o.keys ↔ k ∈ names (texts.map Prod.fst))
    (htexts : ∀ e ∈ texts, (o.get? (PyStr.ofString e.1)).bind json = some e.2) :
    c.canonicalJSON o = some (objectText texts) := by
  rw [hw.object o _ hnodup hsorted hsmall hkeys, memberTexts_eq_some.mpr ⟨rfl, htexts⟩, Option.map_some]

theorem Codec.Writes.two (hw : c.Writes json) : json (.int 2) = some (literal "2") := hw.integer 2 (by decide)

theorem header_text (digits : Bytes) (sessionID : PyStr) :
    objectText [("protocol_version", literal "2"), ("sequence", digits), ("session_id", quotedText sessionID)] =
      literal "\x7b\"protocol_version\":2,\"sequence\":" ++ digits ++ literal ",\"session_id\":\"" ++
        sessionID.bytes ++ literal "\"\x7d" := by
  simp only [objectText, laterMembers, List.append_assoc, quotedText, Secure.literal_join, String.reduceAppend,
    ← literal_append]

theorem Codec.Writes.lawful (hw : c.Writes json)
    (hbase64 : ∀ data, c.base64Encoded (Link.PipaMobileCodec.base64EncodedString data) = some data) : c.Lawful where
  base64 := hbase64
  header := by
    intro sessionID sequence hid hlt
    have hplain := Secure.isIdentifier_plain hid
    have hnumber : (UInt64.ofNat sequence).toNat = sequence := by
      rw [UInt64.toNat_ofNat']
      exact Nat.mod_eq_of_lt hlt
    have hpython := Secure.recordHeader_canonical hplain (UInt64.ofNat sequence)
    rw [hnumber] at hpython
    have hheader : Secure.canonical (PipaSecureRecordLayer.header sessionID sequence) =
        some (Secure.Firmware.headerFor sessionID.bytes (UInt64.ofNat sequence)) := hpython
    have hphone : c.canonicalJSON (PipaSecureRecordLayer.header sessionID sequence) = some (objectText
        [("protocol_version", literal "2"), ("sequence", literal (toString sequence)),
         ("session_id", quotedText sessionID)]) := by
      refine hw.eq (by show List.Nodup (names ["protocol_version", "sequence", "session_id"]); decide)
        (by show (names ["protocol_version", "sequence", "session_id"]).Pairwise Before; decide) ?_
        (fun _ => Iff.rfl) ?_
      · show ∀ name ∈ ["protocol_version", "sequence", "session_id"], _
        decide
      · simp only [List.forall_mem_cons]
        exact ⟨hw.two, hw.integer sequence hlt, hw.plain sessionID hplain, List.forall_mem_nil _⟩
    rw [hphone, hheader, header_text, Secure.Firmware.headerFor, hnumber]

theorem Codec.Writes.string_cuts (hw : c.Writes json) {o : Object} {name : String} {s s' : PyStr}
    (hget : (o.get? (PyStr.ofString name)).bind asString = some s) (hs' : Plain s') {e : String × Bytes}
    (he : (o.get? (PyStr.ofString e.1)).bind json = some e.2) (hname : e.1 = name) :
    Cuts e (name, quotedText s') := by
  obtain ⟨v, hv, hstring⟩ := Option.bind_eq_some_iff.mp hget
  rw [hname, hv, Option.bind_some] at he
  obtain ⟨q, hq, -⟩ := quotedText_pieces hs'
  cases v with
  | str t =>
    obtain ⟨p, hp, -⟩ := hw.string t e.2 he
    exact ⟨hname, .inl ⟨⟨p, hp⟩, q, hq⟩⟩
  | _ => cases hstring

/-- Of the text of a string, its characters can be told. -/
theorem Codec.Writes.string_eq (hw : c.Writes json) (hread : c.foundation.ReadsStrings) {o : Object} {name : String}
    {s s' : PyStr} (hget : (o.get? (PyStr.ofString name)).bind asString = some s) (hs' : Plain s')
    (htext : (o.get? (PyStr.ofString name)).bind json = some (quotedText s')) : s = s' := by
  obtain ⟨v, hv, hstring⟩ := Option.bind_eq_some_iff.mp hget
  rw [hv, Option.bind_some] at htext
  obtain ⟨q, hq, hchars'⟩ := quotedText_pieces hs'
  cases v with
  | str t =>
    obtain rfl : t = s := Option.some.inj hstring
    obtain ⟨p, hp, hchars⟩ := hw.string t _ htext
    have hfragment := hread p
    rw [← hp, hq, hread q, Option.some.injEq] at hfragment
    rw [← hchars, ← hchars', hfragment]
  | _ => cases hstring

theorem Codec.Writes.plain_text (hw : c.Writes json) {o : Object} {name : String} {s : PyStr}
    (hget : (o.get? (PyStr.ofString name)).bind asString = some s) (hs : Plain s) :
    (o.get? (PyStr.ofString name)).bind json = some (quotedText s) := by
  obtain ⟨v, hv, hstring⟩ := Option.bind_eq_some_iff.mp hget
  rw [hv, Option.bind_some]
  cases v with
  | str t =>
    obtain rfl : t = s := Option.some.inj hstring
    exact hw.plain t hs
  | _ => cases hstring

end

/-! ## A codec -/

/-- The text of a value, where it is a string or a number from 0 on. -/
def plainJson : Value → Option Bytes
  | .str s => if s.Clean then some (dumpStr s).bytes else none
  | .int n => if 0 ≤ n then some (literal (toString n.toNat)) else none
  | _ => none

def nameText (k : PyStr) : String := String.ofList (k.map (fun ch => Char.ofNat ch.val))

/-- `PyStr.le`, as a relation. -/
def codesLe (a b : PyStr) : Prop := PyStr.le a b = true

instance : DecidableRel codesLe := fun a b => inferInstanceAs (Decidable (PyStr.le a b = true))

instance : Std.Total codesLe := ⟨PyStr.le_total⟩

instance : IsTrans PyStr codesLe := ⟨fun _ _ _ h h' => PyStr.le_trans h h'⟩

def sortedNames (o : Object) : List String := (o.keys.insertionSort codesLe).map nameText

/-- A codec that sorts the names. -/
def sortingCodec : Codec :=
  { plainPlatform with
    base64Encoded := Link.PipaMobileCodec.standardDecode
    canonicalJSON := fun o => (memberTexts plainJson o (sortedNames o)).map objectText }

theorem nameText_ofString (name : String) : nameText (PyStr.ofString name) = name := by
  have hchars : (PyStr.ofString name).map (fun ch => Char.ofNat ch.val) = name.toList := by
    rw [PyStr.ofString, List.map_map]
    refine (List.map_congr_left fun ch _ => ?_).trans (List.map_id _)
    exact Char.ofNat_toNat ch
  rw [nameText, hchars, String.ofList_toList]

theorem sortedNames_eq {o : Object} {fields : List String} (hnodup : o.keys.Nodup)
    (hsorted : (names fields).Pairwise Before) (hkeys : ∀ k, k ∈ o.keys ↔ k ∈ names fields) :
    sortedNames o = fields := by
  have hnames : (names fields).Nodup := hsorted.imp fun h => h.2
  have hperm : o.keys.Perm (names fields) := (List.perm_ext_iff_of_nodup hnodup hnames).mpr hkeys
  have hsort : o.keys.insertionSort codesLe = names fields := by
    refine List.Perm.eq_of_pairwise ?_ (List.pairwise_insertionSort codesLe _)
      (hsorted.imp fun h => h.1) ((List.perm_insertionSort codesLe _).trans hperm)
    intro a b _ _ hab hba
    exact PyStr.le_antisymm hab hba
  have hback : ∀ name ∈ fields, nameText (PyStr.ofString name) = name := fun name _ => nameText_ofString name
  rw [sortedNames, hsort, names, List.map_map]
  exact (List.map_congr_left hback).trans (List.map_id _)

theorem sortingCodec_writes : sortingCodec.Writes plainJson where
  object := by
    intro o fields hnodup hsorted _ hkeys
    show (memberTexts plainJson o (sortedNames o)).map objectText = _
    rw [sortedNames_eq hnodup hsorted hkeys]
  string := by
    intro s text h
    rw [plainJson] at h
    split at h
    · rename_i hclean
      obtain ⟨p, hp, hchars⟩ := dumpStr_spelt hclean
      exact ⟨p, (Option.some.inj h).symm.trans hp.symm, hchars⟩
    · cases h
  plain := by
    intro s hs
    rw [plainJson, if_pos (plain_clean hs), quotedText_eq hs]
  integer := by
    intro n _
    rw [plainJson, if_pos (Int.natCast_nonneg n), Int.toNat_natCast]
  number := by
    intro v n text hnumber h
    cases v with
    | int m =>
      rw [plainJson] at h
      split at h
      · obtain rfl := Option.some.inj h
        exact Secure.digits_no_comma _
      · cases h
    | str s => cases hnumber
    | _ => cases h

end Pipa.Mobile
