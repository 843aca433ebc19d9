import BankCodes.Log.Record
import BankCodes.Proofs.Log.Template
import BankCodes.Proofs.Stages
import BankCodes.Text.Ascii
import BankCodes.Text.JsonReader

/-!
# The line of a record

A record with a message is written as a JSON object, and nothing in its texts can break out of the
line or of the string that it stands in: control characters are escaped, and quotes and backslashes
have a backslash before them. A reader of JSON gets the members back as they are,

    readObject (r.jsonLine message) = some (r.members message)

so that records with different members have different lines. A record whose arguments do not fit its
template has no message, and no line either.

* `string_jsonChar`, `tokens_jsonString`: reading undoes the escapes, whatever stands behind;
* `readObject_object`: an object of strings is read as its members;
* `json_line`: the line of every record.
-/

namespace BankCodes

open Text

namespace Text.Json

/-! ## Strings -/

/-- Two hexadecimal digits and two zeros before them write a control character. -/
private theorem padded_control :
    ∀ n < 32, padded 16 4 n = ['0', '0', Nat.digitChar (n / 16), Nat.digitChar (n % 16)] ∧
      unit? '0' '0' (Nat.digitChar (n / 16)) (Nat.digitChar (n % 16)) = some n := by
  decide

theorem lt_space_iff {c : Char} : c < ' ' ↔ c.toNat < 32 := Iff.rfl

/-- A character that stands for itself is read as itself. -/
theorem string_cons_self {c : Char} (hquote : c ≠ '"') (hbackslash : c ≠ '\\') (hspace : ¬ c < ' ')
    (cs : List Char) :
    string (c :: cs) = (string cs).map fun r => (c.toNat :: r.1, r.2) := by
  rw [string]
  · rw [if_neg hspace]
    cases string cs <;> rfl
  · exact hquote
  · intro a b c' d cs' h
    exact absurd h hbackslash
  · intro e cs' h
    exact absurd h hbackslash

/-- A backslash and one more character are read as what they stand for. -/
theorem string_escaped {e c : Char} (h : escaped? e = some c) (cs : List Char) :
    string ('\\' :: e :: cs) = (string cs).map fun r => (c.toNat :: r.1, r.2) := by
  have hunit : e ≠ 'u' := by
    rintro rfl
    cases h
  rw [string]
  · simp only [h]
    cases string cs <;> rfl
  · intro a b c' d cs' hu
    exact absurd hu hunit

/-- A backslash, the letter for code units and four digits are read as the unit. -/
theorem string_unit {a b c d : Char} {unit : Nat} (h : unit? a b c d = some unit) (cs : List Char) :
    string ('\\' :: 'u' :: a :: b :: c :: d :: cs) =
      (string cs).map fun r => (unit :: r.1, r.2) := by
  rw [string]
  simp only [h]
  cases string cs <;> rfl

/-- A character as it stands in a string is read as this character. -/
theorem string_jsonChar (c : Char) (cs : List Char) :
    string (jsonChar c ++ cs) = (string cs).map fun r => (c.toNat :: r.1, r.2) := by
  unfold jsonChar
  split
  · next h =>
    rw [Bool.or_eq_true, beq_iff_eq, beq_iff_eq] at h
    apply string_escaped
    rcases h with rfl | rfl
    · rfl
    · rfl
  next hself =>
  split
  · next h => exact eq_of_beq h ▸ string_escaped rfl cs
  split
  · next h => exact eq_of_beq h ▸ string_escaped rfl cs
  split
  · next h => exact eq_of_beq h ▸ string_escaped rfl cs
  split
  · next h => exact eq_of_beq h ▸ string_escaped rfl cs
  split
  · next h => exact eq_of_beq h ▸ string_escaped rfl cs
  split
  · next hcontrol =>
    obtain ⟨hpadded, hunit⟩ := padded_control c.toNat hcontrol
    rw [hpadded]
    exact string_unit hunit cs
  · next hspace =>
    rw [Bool.or_eq_true, beq_iff_eq, beq_iff_eq, not_or] at hself
    exact string_cons_self hself.1 hself.2 hspace cs

/-- A string is read up to its closing quote, as the text that was written. -/
theorem string_flatMap_jsonChar (text cs : List Char) :
    string (text.flatMap jsonChar ++ '"' :: cs) =
      (tokens cs).map fun ts => (text.map Char.toNat, ts) := by
  induction text with
  | nil =>
    show string ('"' :: cs) = _
    rw [string]
    cases tokens cs <;> rfl
  | cons c text ih =>
    rw [List.flatMap_cons, List.append_assoc, string_jsonChar, ih]
    cases tokens cs <;> rfl

/-- No character is half of a pair. -/
theorem ofUnits_map_toNat (text : List Char) : ofUnits (text.map Char.toNat) = some text := by
  induction text with
  | nil => rfl
  | cons c text ih =>
    have hvalid : c.toNat < 0xD800 ∨ 0xDFFF < c.toNat ∧ c.toNat < 0x110000 := c.valid
    have hhigh : isHighHalf c.toNat = false := by
      simp only [isHighHalf, Bool.and_eq_false_iff, decide_eq_false_iff_not]
      omega
    have hlow : isLowHalf c.toNat = false := by
      simp only [isLowHalf, Bool.and_eq_false_iff, decide_eq_false_iff_not]
      omega
    rw [List.map_cons, ofUnits.eq_def]
    simp only [hhigh, hlow, ih, Bool.false_eq_true, if_false, Option.map_some, Char.ofNat_toNat]

/-! ## Tokens -/

/-- A string with its quotes is one token. -/
theorem tokens_jsonString (s : String) (cs : List Char) :
    tokens ((jsonString s).toList ++ cs) = (tokens cs).map (.string s :: ·) := by
  have hcut : (jsonString s).toList ++ cs = '"' :: (s.toList.flatMap jsonChar ++ '"' :: cs) := by
    simp [jsonString]
  rw [hcut, tokens, if_pos (beq_self_eq_true '"'), string_flatMap_jsonChar]
  cases tokens cs with
  | none => rfl
  | some ts => simp [ofUnits_map_toNat]

theorem tokens_punctuation {c : Char} {t : Token} (h : punctuation? c = some t) (cs : List Char) :
    tokens (c :: cs) = (tokens cs).map (t :: ·) := by
  have hquote : ¬ (c == '"') = true := by
    intro hc
    rw [eq_of_beq hc] at h
    cases h
  have hgap : ¬ isGap c = true := by
    intro hc
    simp only [isGap, Bool.or_eq_true, beq_iff_eq] at hc
    rcases hc with ((rfl | rfl) | rfl) | rfl
    all_goals cases h
  rw [tokens, if_neg hquote, if_neg hgap, h]
  cases tokens cs <;> rfl

theorem tokens_space (cs : List Char) : tokens (' ' :: cs) = tokens cs := by
  have hgap : isGap ' ' = true := rfl
  rw [tokens, if_neg (by decide), if_pos hgap]

/-! ## Objects -/

/-- A member is a string, a colon and a string. -/
theorem tokens_member (m : String × String) (cs : List Char) :
    tokens ((Log.Record.member m).toList ++ cs) =
      (tokens cs).map fun ts => .string m.1 :: .colon :: .string m.2 :: ts := by
  have hcut : (Log.Record.member m).toList ++ cs =
      (jsonString m.1).toList ++ ':' :: ' ' :: ((jsonString m.2).toList ++ cs) := by
    simp [Log.Record.member]
  rw [hcut, tokens_jsonString, tokens_punctuation (t := .colon) rfl, tokens_space,
    tokens_jsonString]
  cases tokens cs <;> rfl

/-- Members with commas between them are read as they are, up to the closing brace. The first token
is the first key. -/
theorem exists_tokens_members (m : String × String) (ms : List (String × String)) :
    ∃ ts, tokens ((", ".intercalate ((m :: ms).map Log.Record.member)).toList ++ ['\x7d']) =
        some (.string m.1 :: ts) ∧
      members (.string m.1 :: ts) = some (m :: ms) := by
  induction ms generalizing m with
  | nil =>
    refine ⟨[.colon, .string m.2, .closing], ?_, rfl⟩
    rw [List.map_cons, List.map_nil, String.intercalate_singleton, tokens_member,
      tokens_punctuation (t := .closing) rfl]
    rfl
  | cons next ms ih =>
    obtain ⟨ts, hts, hmembers⟩ := ih next
    refine ⟨.colon :: .string m.2 :: .comma :: .string next.1 :: ts, ?_, ?_⟩
    · have hcut : (", ".intercalate ((m :: next :: ms).map Log.Record.member)).toList ++ ['\x7d'] =
          (Log.Record.member m).toList ++ ',' :: ' ' ::
            ((", ".intercalate ((next :: ms).map Log.Record.member)).toList ++ ['\x7d']) := by
        simp [String.intercalate_cons_cons]
      rw [hcut, tokens_member, tokens_punctuation (t := .comma) rfl, tokens_space, hts]
      rfl
    · rw [members, hmembers]
      rfl

/-- An object of at least one member is read as its members. -/
theorem readObject_object (m : String × String) (ms : List (String × String)) :
    readObject ("\x7b" ++ ", ".intercalate ((m :: ms).map Log.Record.member) ++ "\x7d") =
      some (m :: ms) := by
  obtain ⟨ts, hts, hmembers⟩ := exists_tokens_members m ms
  have hcut : ("\x7b" ++ ", ".intercalate ((m :: ms).map Log.Record.member) ++ "\x7d").toList =
      '\x7b' :: ((", ".intercalate ((m :: ms).map Log.Record.member)).toList ++ ['\x7d']) := by
    simp
  rw [readObject, hcut, tokens_punctuation (t := .opening) rfl, hts]
  exact hmembers

/-- The reader takes other spellings as well, and refuses one half of a pair. -/
example : ["\x7b\"msg\": \"😀/\"\x7d", " \x7b \"\\u006dsg\" : \"\\uD83D\\ude00\\/\" \x7d\n",
    "\x7b\"msg\": \"\\uD83D/\"\x7d"].map readObject =
    [some [("msg", "😀/")], some [("msg", "😀/")], none] := by
  decide +kernel

/-! ## Control characters -/

/-- No character of the text is a control character below the space. -/
def OnOneLine (s : String) : Prop := ∀ c ∈ s.toList, 0x20 ≤ c.toNat

instance (s : String) : Decidable (OnOneLine s) :=
  List.decidableBAll (p := fun c : Char => 0x20 ≤ c.toNat) s.toList

theorem onOneLine_append {s t : String} : OnOneLine (s ++ t) ↔ OnOneLine s ∧ OnOneLine t := by
  unfold OnOneLine
  rw [String.toList_append, List.forall_mem_append]

theorem onOneLine_intercalate {separator : String} (hseparator : OnOneLine separator)
    {texts : List String} (htexts : ∀ s ∈ texts, OnOneLine s) :
    OnOneLine (separator.intercalate texts) := by
  induction texts with
  | nil => exact nofun
  | cons s texts ih =>
    rw [List.forall_mem_cons] at htexts
    cases texts with
    | nil =>
      rw [String.intercalate_singleton]
      exact htexts.1
    | cons t texts =>
      rw [String.intercalate_cons_cons, onOneLine_append, onOneLine_append]
      exact ⟨⟨htexts.1, hseparator⟩, ih htexts.2⟩

/-- Escapes are made of characters that need none. -/
theorem le_toNat_of_mem_jsonChar {c d : Char} (h : d ∈ jsonChar c) : 0x20 ≤ d.toNat := by
  by_cases hcontrol : c.toNat < 32
  · have hall : ∀ n < 32, OnOneLine (String.ofList (jsonChar (Char.ofNat n))) := by decide
    apply hall c.toNat hcontrol
    rwa [Char.ofNat_toNat, String.toList_ofList]
  · have hne : ∀ {e : Char}, e.toNat < 32 → (c == e) = false := by
      intro e he
      rw [beq_eq_false_iff_ne]
      rintro rfl
      exact hcontrol he
    have hplain : jsonChar c = if c == '"' || c == '\\' then ['\\', c] else [c] := by
      simp only [jsonChar, hne (e := '\n') (by decide), hne (e := '\r') (by decide),
        hne (e := '\t') (by decide), hne (e := '\x08') (by decide),
        hne (e := '\x0c') (by decide), lt_space_iff, hcontrol, Bool.false_eq_true, if_false]
    have hd : d = '\\' ∨ d = c := by
      rw [hplain] at h
      split at h
      · simpa using h
      · exact .inr (List.mem_singleton.1 h)
    rcases hd with rfl | rfl
    · decide
    · exact Nat.not_lt.1 hcontrol

theorem onOneLine_jsonString (s : String) : OnOneLine (jsonString s) := by
  intro c hc
  rw [jsonString, String.toList_ofList, List.mem_append, List.mem_cons, List.mem_flatMap,
    List.mem_singleton] at hc
  rcases hc with (rfl | ⟨d, -, hc⟩) | rfl
  · decide
  · exact le_toNat_of_mem_jsonChar hc
  · decide

theorem onOneLine_object (ms : List (String × String)) :
    OnOneLine ("\x7b" ++ ", ".intercalate (ms.map Log.Record.member) ++ "\x7d") := by
  rw [onOneLine_append, onOneLine_append]
  refine ⟨⟨by decide, ?_⟩, by decide⟩
  apply onOneLine_intercalate (by decide)
  intro s hs
  obtain ⟨m, -, rfl⟩ := List.mem_map.1 hs
  rw [Log.Record.member, onOneLine_append, onOneLine_append]
  exact ⟨⟨onOneLine_jsonString m.1, by decide⟩, onOneLine_jsonString m.2⟩

end Text.Json

namespace Log.Record

open Text.Json

/-! ## Records -/

/-- The kind that the record is about. An empty one is none. -/
def kind? (r : Record) : Option String := r.kind.filter fun kind => !kind.isEmpty

theorem members_eq (r : Record) (message : String) :
    r.members message =
      [("ts", String.ofList r.created.exactText), ("level", levelName r.level),
        ("logger", r.logger), ("msg", message)] ++
      (r.error.toList.map fun report => ("exc", report)) ++
      r.kind?.toList.map fun kind => ("identifier_kind", kind) := by
  unfold members kind?
  congr 1
  · cases r.error <;> rfl
  · cases r.kind with
    | none => rfl
    | some kind =>
      by_cases hempty : kind = ""
      · rw [hempty]
        rfl
      · have hsome : kind.isEmpty = false := by simpa using hempty
        simp [Option.filter, hsome]

/-- The line of a record is read as its members. -/
theorem readObject_jsonLine (r : Record) (message : String) :
    readObject (r.jsonLine message) = some (r.members message) := by
  have hcons : ∃ m ms, r.members message = m :: ms := ⟨_, _, r.members_eq message⟩
  obtain ⟨m, ms, hmembers⟩ := hcons
  rw [jsonLine, hmembers, readObject_object]

/-- Records have the same line if and only if they have the same members. -/
theorem jsonLine_eq_jsonLine_iff {r other : Record} {message message' : String} :
    r.jsonLine message = other.jsonLine message' ↔ r.members message = other.members message' := by
  constructor
  · intro h
    have hread := r.readObject_jsonLine message
    rw [h, other.readObject_jsonLine] at hread
    exact (Option.some.inj hread).symm
  · intro h
    rw [jsonLine, jsonLine, h]

/-- What stands under each key. -/
theorem lookup_members (r : Record) (message : String) :
    (r.members message).lookup "level" = some (levelName r.level) ∧
    (r.members message).lookup "logger" = some r.logger ∧
    (r.members message).lookup "msg" = some message ∧
    (r.members message).lookup "exc" = r.error ∧
    (r.members message).lookup "identifier_kind" = r.kind? := by
  rw [members_eq]
  cases r.error <;> cases r.kind? <;> simp [List.lookup_cons]

/-- A record whose arguments do not fit its template has no line, for the same reason as it has no
message. Every other record has one, which holds no control character below the space, so that it is
one line. It is read as one object with the members of the record, in order: the time, the name of
the level, the logger and the message, then the report on an error if and only if there is one, and
the kind if and only if it is not empty. Each value is the very text of the record, so no record
that differs in one of them has the same line. -/
theorem json_line (r : Record) :
    (∀ misfit, r.message = .error misfit ↔ r.json = .error misfit) ∧
    ∀ message, r.message = .ok message →
      ∃ line, r.json = .ok line ∧
        (∀ c ∈ line.toList, 0x20 ≤ c.toNat) ∧
        readObject line = some (
          [("ts", String.ofList r.created.exactText), ("level", levelName r.level),
            ("logger", r.logger), ("msg", message)] ++
          (r.error.toList.map fun report => ("exc", report)) ++
          r.kind?.toList.map fun kind => ("identifier_kind", kind)) ∧
        ∀ other : Record,
          levelName r.level ≠ levelName other.level ∨ r.logger ≠ other.logger ∨
            other.message ≠ .ok message ∨ r.error ≠ other.error ∨ r.kind? ≠ other.kind? →
          other.json ≠ .ok line := by
  constructor
  · exact fun misfit => map_eq_error_iff.symm
  intro message hmessage
  refine ⟨r.jsonLine message, map_eq_ok_iff.2 ⟨message, hmessage, rfl⟩, ?_, ?_, ?_⟩
  · exact onOneLine_object (r.members message)
  · rw [readObject_jsonLine, members_eq]
  · intro other hdiffer hsame
    obtain ⟨message', hmessage', hline⟩ := map_eq_ok_iff.1 hsame
    rw [jsonLine_eq_jsonLine_iff] at hline
    obtain ⟨hlevel, hlogger, htext, herror, hkind⟩ := r.lookup_members message
    obtain ⟨hlevel', hlogger', htext', herror', hkind'⟩ := other.lookup_members message'
    rw [hline] at hlevel' hlogger' htext' herror' hkind'
    rcases hdiffer with h | h | h | h | h
    · exact h (Option.some.inj (hlevel.symm.trans hlevel'))
    · exact h (Option.some.inj (hlogger.symm.trans hlogger'))
    · rw [Option.some.inj (htext'.symm.trans htext)] at hmessage'
      exact h hmessage'
    · exact h (herror.symm.trans herror')
    · exact h (hkind.symm.trans hkind')

/-- A message that would break out of its string and its line does neither, with a report that says
that nothing has been raised; the record without its kind has another line. With one argument less
there is no line. -/
theorem json_line_sample :
    let r : Record :=
      { level := info, logger := "bank", template := "%s rejected%c",
        arguments := .values [.text "\"\n\\", .whole 33], kind := some "IBAN",
        error := some "NoneType: None", created := .epoch }
    (∃ line, r.json = .ok line ∧ '\n' ∉ line.toList ∧
      (readObject line).bind (List.lookup "msg") = some "\"\n\\ rejected!" ∧
      (readObject line).bind (List.lookup "exc") = some "NoneType: None" ∧
      { r with kind := none }.json ≠ .ok line) ∧
    { r with arguments := .values [.text "x"] }.json = .error .tooFew := by
  intro r
  obtain ⟨line, hline, hone, hread, hdiffer⟩ :=
    (json_line r).2 "\"\n\\ rejected!" (by decide +kernel)
  refine ⟨⟨line, hline, ?_, ?_, ?_, hdiffer _ ?_⟩, ?_⟩
  · intro hbreak
    exact absurd (hone '\n' hbreak) (by decide)
  · rw [hread]
    decide +kernel
  · rw [hread]
    decide +kernel
  · decide +kernel
  · exact ((json_line _).1 _).1 (by decide +kernel)

end Log.Record

end BankCodes
