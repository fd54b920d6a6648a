import Sensing.Document.Forms
import Sensing.Proofs.Document.Fields
import Sensing.Proofs.Document.Json.Writing

/-!
# The JSON forms of streams are read back

Whatever is written of a request, a native mode, a channel, an encoding or an information field is
read as the same again.

Others may write a request in other ways: in any order, with blanks and escapes, without what has a
default, and beside entries of their own. What such a text describes is said without saying how it
is read, in two steps: which record the text spells (`Json.Says`), and which request the entries of
the record describe (`StreamRequest.Describes`).

Main result: `forms_read_back`.
-/

namespace Sensing

namespace Json

/-- What a text says, read as a value. -/
def parse? {α : Type} (read? : Document → Option α) (text : String) : Option α :=
  (read text.toList).bind read?

/-- What a text says is what is read from it. -/
theorem Says.parse?_eq {α : Type} {read? : Document → Option α} {text : String} {d : Document}
    (h : Says text d) : parse? read? text = read? d := by
  unfold parse?
  rw [h.read_eq, Option.bind_some]

/-- What was written is what is read from it. -/
theorem parse?_render {α : Type} {read? : Document → Option α} {d : Document} (h : Writable d) :
    parse? read? (render d) = read? d := by
  unfold parse?
  rw [read_render h, Option.bind_some]

end Json

/-! ## Words and names -/

namespace Document

variable {α : Type} {d : Document}

/-- A 32-bit word: a number without a sign, a fraction or a power. -/
inductive IsWord : Document → UInt32 → Prop where
  | mk {ds : List Nat} {w : UInt32} (spelled : Numeral.spelled ds = w.toNat) :
    IsWord (.number ⟨false, ds, [], none⟩) w

/-- An integer that is not negative has no sign, no fraction and no power. -/
theorem exists_of_integer? {n : Numeral} {i : Int} (h : n.integer? = some i) (nonneg : 0 ≤ i) :
    ∃ ds, n = ⟨false, ds, [], none⟩ ∧ i = Numeral.spelled ds := by
  -- A numeral with a fraction or a power is no integer, and one with a sign is negative or zero; a
  -- zero with a sign is not taken for an integer.
  obtain ⟨negative, whole, fraction, power⟩ := n
  unfold Numeral.integer? at h
  split at h
  next => cases h
  next plain =>
    obtain ⟨rfl, rfl⟩ : fraction = [] ∧ power = none := by simpa using plain
    cases negative with
    | false =>
      rw [if_neg Bool.false_ne_true] at h
      dsimp only at h
      split at h
      next => exact ⟨whole, rfl, (Option.some.inj h).symm⟩
      next => cases h
    | true =>
      rw [if_pos rfl] at h
      dsimp only at h
      split at h
      next => cases h
      next =>
        cases h
        omega

/-- The words are the integers from zero to the greatest that 32 bits can hold. -/
theorem word?_eq_some_iff {w : UInt32} : d.word? = some w ↔ IsWord d w := by
  constructor
  · intro h
    obtain ⟨i, integer, rfl⟩ := Option.map_eq_some_iff.1 h
    cases d with
    | number n =>
      obtain ⟨j, whole, fits⟩ := Option.bind_eq_some_iff.1 integer
      obtain ⟨⟨least, greatest⟩, rfl⟩ := Text.IntegerRange.fit?_eq_some_iff.1 fits
      obtain ⟨ds, rfl, rfl⟩ := exists_of_integer? whole least
      refine .mk (UInt32.toNat_ofNat_of_lt ?_).symm
      change _ ≤ (4294967295 : Int) at greatest
      change _ < 4294967296
      omega
    | _ => cases integer
  · intro h
    obtain @⟨ds, _, spelled⟩ := h
    -- A word is far below the greatest integer that is read at all.
    have bound : w.toNat < 4294967296 := w.toNat_lt
    have whole : Numeral.integer? ⟨false, ds, [], none⟩ = some (w.toNat : Int) := by
      change (if Numeral.spelled ds < 18446744073709551616 then
        some (Numeral.spelled ds : Int) else none) = _
      rw [spelled, if_pos (by omega)]
    have fits : Text.IntegerRange.unsigned32.fit? w.toNat = some (w.toNat : Int) :=
      if_pos ⟨Int.natCast_nonneg _, by change _ ≤ (4294967295 : Int); omega⟩
    change ((Numeral.integer? ⟨false, ds, [], none⟩).bind _).map _ = _
    rw [whole, Option.bind_some, fits]
    exact congrArg some (UInt32.ofNat_toNat)

/-- A member of a choice: its name, or a record with the name and nothing to say about it. -/
inductive IsNamed (name : α → String) : Document → α → Prop where
  | text (a : α) : IsNamed name (.ofString (name a)) a
  | record (a : α) : IsNamed name (.ofFields [(name a, .null)]) a

/-- Members of a choice are told apart by their names. -/
theorem choice?_eq_some_iff {all : List α} {name : α → String}
    (back : ∀ a, (all.find? fun b => name b == name a) = some a) {a : α} :
    (d.choice? .json fun s => all.find? fun b => name b == s) = some a ↔ IsNamed name d a := by
  have named {s : String} (found : (all.find? fun b => name b == s) = some a) : s = name a := by
    have same := List.find?_some found
    exact (beq_iff_eq.1 same).symm
  constructor
  -- A text names the member itself, and a record has it as its only field, which holds nothing.
  · intro h
    unfold choice? at h
    split at h
    next s =>
      obtain rfl := named h
      exact .text a
    next s d =>
      split at h
      next silent =>
        obtain rfl := named h
        cases d with
        | null => exact .record a
        | _ => cases silent
      next => cases h
    next => cases h
  · rintro (_ | _)
    · exact back a
    · exact back a

end Document

/-- A channel is written by its name, -/
theorem Channel.ofDocument?_eq_some_iff {d : Document} {c : Channel} :
    ofDocument? .json d = some c ↔ d.IsNamed name c :=
  Document.choice?_eq_some_iff ofName?_name

/-- and so is an encoding. -/
theorem Encoding.ofDocument?_eq_some_iff {d : Document} {e : Encoding} :
    ofDocument? .json d = some e ↔ d.IsNamed name e :=
  Document.choice?_eq_some_iff ofName?_name

/-- An information field is written by its key. -/
theorem InfoField.ofDocument?_eq_some_iff {d : Document} {f : InfoField} :
    ofDocument? .json d = some f ↔ d.IsNamed key f :=
  Document.choice?_eq_some_iff ofKey?_key

@[simp] theorem Channel.ofDocument?_toDocument (c : Channel) :
    ofDocument? .json c.toDocument = some c := ofDocument?_eq_some_iff.2 (.text c)

@[simp] theorem Encoding.ofDocument?_toDocument (e : Encoding) :
    ofDocument? .json e.toDocument = some e := ofDocument?_eq_some_iff.2 (.text e)

@[simp] theorem InfoField.ofDocument?_toDocument (f : InfoField) :
    ofDocument? .json f.toDocument = some f := ofDocument?_eq_some_iff.2 (.text f)

/-- A word is written as its decimal number. -/
theorem isWord_wordDocument (w : UInt32) : Document.IsWord (wordDocument w) w := by
  have plain : decide ((w.toNat : Int) < 0) = false := decide_eq_false (by omega)
  unfold wordDocument Document.ofInt
  rw [plain]
  exact .mk (Numeral.spelled_digitsOf w.toNat)

@[simp] theorem word?_wordDocument (w : UInt32) : (wordDocument w).word? = some w :=
  Document.word?_eq_some_iff.2 (isWord_wordDocument w)

/-- That number has a JSON form. -/
theorem writable_wordDocument (w : UInt32) : Json.Writable (wordDocument w) :=
  Json.writable_ofInt w.toNat

/-! ## Modes -/

namespace NativeMode

/-- A mode has a JSON form. -/
theorem writable_toDocument (m : NativeMode) : Json.Writable m.toDocument := by
  refine .record ?_
  simp only [List.forall_mem_cons]
  exact ⟨writable_wordDocument _, writable_wordDocument _, writable_wordDocument _,
    writable_wordDocument _, nofun⟩

/-- What is written of a mode is read as that mode. -/
theorem ofDocument?_toDocument (m : NativeMode) : ofDocument? .json m.toDocument = some m := by
  have found : m.toDocument.fields? .json forms = some [some (wordDocument m.width),
      some (wordDocument m.height), some (wordDocument m.fps),
      some (wordDocument m.format.code)] := rfl
  unfold ofDocument?
  rw [found]
  simp [Document.required?]

end NativeMode

/-! ## Requests -/

namespace StreamRequest

open Document

variable {entries : List (String × Document)} {r : StreamRequest}

/-- The entries of a record describe a request: they give its channel, and all else unless it is
the default. Entries with other names say nothing. -/
structure Describes (entries : List (String × Document)) (r : StreamRequest) : Prop where
  channel : Gives "stream" (IsNamed Channel.name) entries r.channel
  width : GivesOr "width" IsWord 0 entries r.width
  height : GivesOr "height" IsWord 0 entries r.height
  fps : GivesOr "fps" IsWord 0 entries r.fps
  encoding : GivesOr "format" (IsNamed Encoding.name) .any entries r.encoding

/-- A request is read just where the entries describe it. -/
theorem ofDocument?_eq_some_iff :
    ofDocument? .json (.ofFields entries) = some r ↔ Describes entries r := by
  unfold ofDocument?
  rw [Option.bind_eq_bind, Option.bind_eq_some_iff]
  constructor
  · rintro ⟨helds, found, reads⟩
    -- Five fields are looked for, so five things are found, in the same order.
    obtain _ | ⟨channel, _ | ⟨width, _ | ⟨height, _ | ⟨fps, _ | ⟨encoding, _ | _⟩⟩⟩⟩⟩ :=
      fields?_ofFields_eq_some_iff.1 found
    simp only [Option.bind_eq_bind, Option.bind_eq_some_iff, Option.pure_def,
      Option.some.injEq] at reads
    obtain ⟨c, readChannel, w, readWidth, h, readHeight, f, readFps, e, readEncoding, rfl⟩ := reads
    exact ⟨(required?_iff fun _ _ => Channel.ofDocument?_eq_some_iff).1 ⟨_, channel, readChannel⟩,
      (orDefault?_iff fun _ _ => word?_eq_some_iff).1 ⟨_, width, readWidth⟩,
      (orDefault?_iff fun _ _ => word?_eq_some_iff).1 ⟨_, height, readHeight⟩,
      (orDefault?_iff fun _ _ => word?_eq_some_iff).1 ⟨_, fps, readFps⟩,
      (orDefault?_iff fun _ _ => Encoding.ofDocument?_eq_some_iff).1 ⟨_, encoding, readEncoding⟩⟩
  · rintro ⟨channel, width, height, fps, encoding⟩
    obtain ⟨_, channel, readChannel⟩ :=
      (required?_iff fun _ _ => Channel.ofDocument?_eq_some_iff).2 channel
    obtain ⟨_, width, readWidth⟩ := (orDefault?_iff fun _ _ => word?_eq_some_iff).2 width
    obtain ⟨_, height, readHeight⟩ := (orDefault?_iff fun _ _ => word?_eq_some_iff).2 height
    obtain ⟨_, fps, readFps⟩ := (orDefault?_iff fun _ _ => word?_eq_some_iff).2 fps
    obtain ⟨_, encoding, readEncoding⟩ :=
      (orDefault?_iff fun _ _ => Encoding.ofDocument?_eq_some_iff).2 encoding
    refine ⟨_, fields?_ofFields_eq_some_iff.2
      (.cons channel (.cons width (.cons height (.cons fps (.cons encoding .nil))))), ?_⟩
    dsimp only
    rw [readChannel, readWidth, readHeight, readFps, readEncoding]
    rfl

/-- A request needs a channel. -/
theorem ofDocument?_of_no_channel (absent : ∀ e ∈ entries, e.1 ≠ "stream") :
    ofDocument? .json (.ofFields entries) = none := by
  rw [Option.eq_none_iff_forall_ne_some]
  intro r h
  obtain ⟨d, holds, -⟩ := (ofDocument?_eq_some_iff.1 h).channel
  rw [← fieldIn?_eq_some_iff] at holds
  have nothing := fieldIn?_eq_some_iff.2 (.nothing absent)
  cases holds.symm.trans nothing

/-- No field of a request may occur twice. -/
theorem ofDocument?_of_repeated {form : FieldForm} (isField : form ∈ forms)
    (before between after : List (String × Document)) (d d' : Document) :
    ofDocument? .json
      (.ofFields (before ++ (form.name, d) :: between ++ (form.name, d') :: after)) = none := by
  unfold ofDocument?
  rw [fields?_of_repeated .json isField]
  rfl

/-- A request has a JSON form. -/
theorem writable_toDocument (r : StreamRequest) : Json.Writable r.toDocument := by
  refine .record ?_
  simp only [List.forall_mem_cons]
  exact ⟨.text _, writable_wordDocument _, writable_wordDocument _, writable_wordDocument _,
    .text _, nofun⟩

/-- What is written of a request is read as that request. -/
theorem ofDocument?_toDocument (r : StreamRequest) : ofDocument? .json r.toDocument = some r := by
  have found : r.toDocument.fields? .json forms = some [some r.channel.toDocument,
      some (wordDocument r.width), some (wordDocument r.height), some (wordDocument r.fps),
      some r.encoding.toDocument] := rfl
  unfold ofDocument?
  rw [found]
  simp [required?, orDefault?]

end StreamRequest

/-! ## Reading back -/

open Json (parse? render)

/-- What is written is read back; and of every text that spells a record with a channel once, and
with every other field of a request at most once, the request is read that its entries describe, in
whichever order they come and whatever other names they have. A record without a channel, or with
a field twice, is refused. -/
theorem forms_read_back :
    ((∀ r : StreamRequest,
        parse? (StreamRequest.ofDocument? .json) (render r.toDocument) = some r) ∧
      (∀ m : NativeMode, parse? (NativeMode.ofDocument? .json) (render m.toDocument) = some m) ∧
      (∀ c : Channel, parse? (Channel.ofDocument? .json) (render c.toDocument) = some c) ∧
      (∀ e : Encoding, parse? (Encoding.ofDocument? .json) (render e.toDocument) = some e) ∧
      ∀ f : InfoField, parse? (InfoField.ofDocument? .json) (render f.toDocument) = some f) ∧
    ∀ (text : String) (entries : List (String × Document)), Json.Says text (.ofFields entries) →
      (∀ r, parse? (StreamRequest.ofDocument? .json) text = some r ↔
        StreamRequest.Describes entries r) ∧
      ((∀ e ∈ entries, e.1 ≠ "stream") → parse? (StreamRequest.ofDocument? .json) text = none) ∧
      ∀ form ∈ StreamRequest.forms, ∀ before between after d d',
        entries = before ++ (form.name, d) :: between ++ (form.name, d') :: after →
          parse? (StreamRequest.ofDocument? .json) text = none := by
  refine ⟨⟨fun r => ?_, fun m => ?_, fun c => ?_, fun e => ?_, fun f => ?_⟩,
    fun text entries said => ?_⟩
  · rw [Json.parse?_render r.writable_toDocument, r.ofDocument?_toDocument]
  · rw [Json.parse?_render m.writable_toDocument, m.ofDocument?_toDocument]
  · exact (Json.parse?_render (.text _)).trans c.ofDocument?_toDocument
  · exact (Json.parse?_render (.text _)).trans e.ofDocument?_toDocument
  · exact (Json.parse?_render (.text _)).trans f.ofDocument?_toDocument
  · rw [said.parse?_eq]
    refine ⟨fun r => StreamRequest.ofDocument?_eq_some_iff,
      StreamRequest.ofDocument?_of_no_channel, ?_⟩
    rintro form isField before between after d d' rfl
    exact StreamRequest.ofDocument?_of_repeated isField before between after d d'

/-- A request with an escape in a name, an entry of another's, and no more than a channel and a
rate. -/
def sparse : String := "\x7b\"more\":[1.5e3],\n\"\\u0073tream\": \"depth\",\"fps\":30\x7d"

/-- The entries of the record that it spells. -/
def sparseEntries : List (String × Document) :=
  [("more", .list [.number ⟨false, [1], [5], some ⟨false, [3]⟩⟩]), ("stream", .ofString "depth"),
    ("fps", .number ⟨false, [3, 0], [], none⟩)]

/-- The text spells the record, and only the channel and the rate of the request differ from the
defaults. -/
theorem sparse_read_back : Json.Says sparse (.ofFields sparseEntries) ∧
    parse? (StreamRequest.ofDocument? .json) sparse = some ⟨.depth, 0, 0, 30, .any⟩ := by
  -- How the text spells the record, from its innermost parts outwards.
  have blank : Json.Blank [] := Json.blank_nil
  have plain {c : Char} {ps : List Json.Piece} {cs : List Char}
      (visible : ¬ c.toNat < 32 ∧ c ≠ '"' ∧ c ≠ '\\') (h : Json.Chars ps cs) :
      Json.Chars (.char c :: ps) (c :: cs) := .plain visible.1 visible.2.1 visible.2.2 h
  have escaped : Json.Quoted (some "stream") "\"\\u0073tream\"".toList :=
    .mk (.unit (n := 115) rfl (plain (c := 't') (by decide) (plain (c := 'r') (by decide)
      (plain (c := 'e') (by decide) (plain (c := 'a') (by decide) (plain (c := 'm') (by decide)
        .nil))))))
  have more : Json.Spells (.list [.number ⟨false, [1], [5], some ⟨false, [3]⟩⟩])
      "[1.5e3]".toList :=
    .list blank (.one (.number (.mk ⟨⟨by decide, by decide, by decide⟩, rfl⟩
      (.some ⟨by decide, rfl⟩ (by decide)) (.some (.inl rfl) .none ⟨by decide, rfl⟩
        (by decide))))) blank
  have fps : Json.Spells (.number ⟨false, [3, 0], [], none⟩) "30".toList :=
    .number (.mk ⟨⟨by decide, by decide, by decide⟩, rfl⟩ .none .none)
  have said : Json.Says sparse (.ofFields sparseEntries) :=
    ⟨[], _, [], blank,
      .record blank
        (.more (Json.quoted_quote "more") blank blank more blank
          (Json.blank_singleton (c := '\n') rfl)
          (.more escaped blank (Json.blank_singleton (c := ' ') rfl)
            (.text (Json.quoted_quote "depth")) blank blank
            (.one (Json.quoted_quote "fps") blank blank fps)))
        blank,
      blank, rfl⟩
  refine ⟨said, ((forms_read_back.2 sparse sparseEntries said).1 _).2 ?_⟩
  exact
    { channel := ⟨_, Document.fieldIn?_eq_some_iff.1 rfl, .text Channel.depth⟩
      width := .inl ⟨.nothing (by decide), rfl⟩
      height := .inl ⟨.nothing (by decide), rfl⟩
      fps := .inr ⟨_, Document.fieldIn?_eq_some_iff.1 rfl, .mk rfl⟩
      encoding := .inl ⟨.nothing (by decide), rfl⟩ }

end Sensing
