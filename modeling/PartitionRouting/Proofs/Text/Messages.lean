import PartitionRouting.Proofs.Text.Quotation
import PartitionRouting.Simulation.Flight

/-!
# Messages identify errors

The message of an error names its kind and its fields.  The kind ends at the first blank, the
labels follow from the kind, and every field ends where it says, so the message can be read
back: different errors have different messages, whatever texts they carry.  A request that
fails in the transport carries the message of that failure as its reason, and a failure that
is passed on several times carries them one inside another; each of them can be read back
from the one around it.

## Main definitions

* `RoutingError.shape` — what the fields of an error are called and whether they hold texts.
* `RoutingError.relayed` — an error that was passed on as the reason of failed requests.

## Main results

* `RoutingError.eq_of_fieldChars_eq` — the fields can be read back from a message.
* `RoutingError.message_injective` — **different errors have different messages.**
* `RoutingError.all_isVisible_message` — a message holds visible characters only.
* `RoutingError.messages_identify` — **an error is determined by its message**, also when it
  has become the reason of another, at any depth.
-/

namespace PartitionRouting

open Text

namespace RoutingError

/-! ### Fields -/

namespace FieldValue

/-- Whether a field holds a text. -/
def isText : FieldValue → Bool
  | text _ => true
  | number _ => false

theorem toList_written_text (s : String) : (text s).written.toList = quotedChars s.toList :=
  toList_quoted s

theorem toList_written_number (n : UInt32) :
    (number n).written.toList = Nat.toDigits 10 n.toNat := by
  simp [written]

/-- Digits end before the first character that is none. -/
theorem digits_append_inj {m n : ℕ} {c d : Char} {l r : List Char} (hc : c.isDigit = false)
    (hd : d.isDigit = false)
    (h : Nat.toDigits 10 m ++ c :: l = Nat.toDigits 10 n ++ d :: r) :
    m = n ∧ c :: l = d :: r := by
  have hdigits : ∀ k, ∀ x ∈ Nat.toDigits 10 k, x.isDigit = true := fun k x hx =>
    Nat.isDigit_of_mem_toDigits (by decide) (by decide) hx
  have hsplit : ∀ k (x : Char) (t : List Char), x.isDigit = false →
      (Nat.toDigits 10 k ++ x :: t).takeWhile Char.isDigit = Nat.toDigits 10 k := by
    intro k x t hx
    rw [List.takeWhile_append_of_pos (hdigits k), List.takeWhile_cons_of_neg (by simp [hx]),
      List.append_nil]
  -- on both sides the digits are those up to the first character that is none
  have htake := congrArg (List.takeWhile Char.isDigit) h
  rw [hsplit m c l hc, hsplit n d r hd] at htake
  refine ⟨toDigits_injective_of_le (by decide) (by decide) htake, ?_⟩
  rw [htake] at h
  exact List.append_cancel_left h

/-- **A field ends where it says**, if no digit follows it. -/
theorem written_append_inj {v w : FieldValue} {c d : Char} {l r : List Char}
    (hshape : v.isText = w.isText) (hc : c.isDigit = false) (hd : d.isDigit = false)
    (h : v.written.toList ++ c :: l = w.written.toList ++ d :: r) :
    v = w ∧ c :: l = d :: r := by
  cases v with
  | text s =>
    cases w with
    | text t =>
      rw [toList_written_text, toList_written_text] at h
      obtain ⟨hst, hrest⟩ := selfDelimiting_quotedChars h
      exact ⟨congrArg text (String.toList_injective hst), hrest⟩
    | number n => contradiction
  | number m =>
    cases w with
    | text t => contradiction
    | number n =>
      rw [toList_written_number, toList_written_number] at h
      obtain ⟨hmn, hrest⟩ := digits_append_inj hc hd h
      exact ⟨congrArg number (UInt32.toNat_inj.mp hmn), hrest⟩

theorem isVisible_of_mem_written {v : FieldValue} {c : Char} (hc : c ∈ v.written.toList) :
    isVisible c = true := by
  cases v with
  | text s =>
    rw [toList_written_text] at hc
    exact isVisible_of_mem_quotedChars hc
  | number n =>
    rw [toList_written_number] at hc
    obtain ⟨d, hd, rfl⟩ := exists_digitChar_of_mem_toDigits (by decide) hc
    exact isVisible_digitChar (by omega)

end FieldValue

/-- What the fields of an error are called, and whether they hold texts. -/
def shape (fs : List (String × FieldValue)) : List (String × Bool) :=
  fs.map fun f => (f.1, f.2.isText)

/-- A field as it stands in a message. -/
def fieldChars (f : String × FieldValue) : List Char :=
  f.1.toList ++ ':' :: ' ' :: f.2.written.toList

/-- The rest of a message after its first field, from the fields that follow. -/
def closing : List (String × FieldValue) → List Char
  | [] => [' ', '\x7d']
  | f :: rest => ',' :: ' ' :: (fieldChars f ++ closing rest)

theorem toList_commaSeparated (f : String × FieldValue) (rest : List (String × FieldValue)) :
    (commaSeparated (fieldTexts ((f :: rest).map fun f => (f.1, f.2.written)))).toList ++
      [' ', '\x7d'] = fieldChars f ++ closing rest := by
  induction rest generalizing f with
  | nil => simp [fieldTexts, commaSeparated, fieldChars, closing]
  | cons g rest ih =>
    have hrest := ih g
    have hsplit : commaSeparated (fieldTexts ((f :: g :: rest).map fun f => (f.1, f.2.written))) =
        f.1 ++ ": " ++ f.2.written ++ ", " ++
          commaSeparated (fieldTexts ((g :: rest).map fun f => (f.1, f.2.written))) := rfl
    rw [hsplit, String.toList_append, List.append_assoc, hrest]
    simp [fieldChars, closing]

/-- The fields of a message, and how it ends. -/
def body : List (String × FieldValue) → List Char
  | [] => closing []
  | f :: rest => fieldChars f ++ closing rest

theorem toList_message (e : RoutingError) :
    e.message.toList = e.kind.toList ++ ' ' :: '\x7b' :: ' ' :: body e.fields := by
  have hbody : (commaSeparated (fieldTexts (e.fields.map fun f => (f.1, f.2.written)))).toList ++
      [' ', '\x7d'] = body e.fields := by
    cases e.fields with
    | nil => rfl
    | cons f rest => exact toList_commaSeparated f rest
  rw [message, recordText, ← hbody]
  simp

variable {f g : String × FieldValue} {fs gs : List (String × FieldValue)}

theorem closing_eq_cons (fs : List (String × FieldValue)) :
    ∃ c l, closing fs = c :: l ∧ c.isDigit = false := by
  cases fs with
  | nil => exact ⟨_, _, rfl, rfl⟩
  | cons f rest => exact ⟨_, _, rfl, rfl⟩

/-- A field can be told from those that follow. -/
theorem field_inj (hlabel : f.1 = g.1) (hshape : f.2.isText = g.2.isText)
    (h : fieldChars f ++ closing fs = fieldChars g ++ closing gs) :
    f = g ∧ closing fs = closing gs := by
  obtain ⟨c, l, hfs, hc⟩ := closing_eq_cons fs
  obtain ⟨d, r, hgs, hd⟩ := closing_eq_cons gs
  rw [fieldChars, fieldChars, hlabel, hfs, hgs] at h
  simp only [List.append_assoc, List.cons_append, List.append_cancel_left_eq, List.cons.injEq,
    true_and] at h
  obtain ⟨hvalue, hrest⟩ := FieldValue.written_append_inj hshape hc hd h
  rw [hfs, hgs]
  exact ⟨Prod.ext hlabel hvalue, hrest⟩

theorem closing_inj (hshape : shape fs = shape gs) (h : closing fs = closing gs) : fs = gs := by
  induction fs generalizing gs with
  | nil =>
    cases gs with
    | nil => rfl
    | cons g gs => contradiction
  | cons f fs ih =>
    cases gs with
    | nil => contradiction
    | cons g gs =>
      obtain ⟨hfirst, hshapes⟩ := List.cons.inj hshape
      obtain ⟨hlabel, htext⟩ := Prod.mk.inj hfirst
      simp only [closing, List.cons.injEq, true_and] at h
      obtain ⟨rfl, hrest⟩ := field_inj hlabel htext h
      rw [ih hshapes hrest]

/-- **The fields can be read back from a message** by whoever knows what they are called. -/
theorem eq_of_body_eq (hshape : shape fs = shape gs) (h : body fs = body gs) : fs = gs := by
  cases fs with
  | nil =>
    cases gs with
    | nil => rfl
    | cons g gs => contradiction
  | cons f fs =>
    cases gs with
    | nil => contradiction
    | cons g gs =>
      obtain ⟨hfirst, hshapes⟩ := List.cons.inj hshape
      obtain ⟨hlabel, htext⟩ := Prod.mk.inj hfirst
      obtain ⟨rfl, hrest⟩ := field_inj hlabel htext h
      rw [closing_inj hshapes hrest]

/-! ### Kinds -/

theorem blank_notMem_kind (e : RoutingError) : ' ' ∉ e.kind.toList := by
  cases e <;> simp [kind]

/-- What the fields of an error are called follows from its kind. -/
theorem shape_eq_of_kind_eq {e e' : RoutingError} (h : e.kind = e'.kind) :
    shape e.fields = shape e'.fields := by
  cases e <;> cases e' <;> simp [kind] at h <;> rfl

/-- An error is determined by its kind and its fields. -/
theorem eq_of_fields_eq {e e' : RoutingError} (hkind : e.kind = e'.kind)
    (hfields : e.fields = e'.fields) : e = e' := by
  cases e <;> cases e' <;> simp_all [kind, fields]

/-- **Different errors have different messages.** -/
theorem message_injective : Function.Injective message := by
  intro e e' h
  have hchars := congrArg String.toList h
  rw [toList_message, toList_message] at hchars
  obtain ⟨hkind, hrest⟩ :=
    append_cons_inj_left (blank_notMem_kind e) (blank_notMem_kind e') hchars
  have hkind' : e.kind = e'.kind := String.toList_injective hkind
  have hbody : body e.fields = body e'.fields := (List.cons.inj (List.cons.inj hrest).2).2
  exact eq_of_fields_eq hkind' (eq_of_body_eq (shape_eq_of_kind_eq hkind') hbody)

theorem message_inj {e e' : RoutingError} : e.message = e'.message ↔ e = e' :=
  message_injective.eq_iff

/-! ### Visible messages -/

theorem all_isVisible_kind (e : RoutingError) : e.kind.toList.all isVisible = true := by
  cases e <;> simp only [kind] <;> decide +kernel

theorem all_isVisible_label {e : RoutingError} (hf : f ∈ e.fields) :
    f.1.toList.all isVisible = true := by
  have hlabels : (e.fields.map Prod.fst).all (·.toList.all isVisible) = true := by
    cases e <;> simp only [fields, List.map_cons, List.map_nil] <;> decide +kernel
  exact List.all_eq_true.mp hlabels f.1 (List.mem_map_of_mem hf)

theorem all_isVisible_field (hlabel : f.1.toList.all isVisible = true) :
    (fieldChars f).all isVisible = true := by
  have hvalue : f.2.written.toList.all isVisible = true :=
    List.all_eq_true.mpr fun c hc => FieldValue.isVisible_of_mem_written hc
  simp only [fieldChars, List.all_append, List.all_cons, hlabel, hvalue, Bool.and_true]
  rfl

theorem all_isVisible_closing (hlabels : ∀ f ∈ fs, f.1.toList.all isVisible = true) :
    (closing fs).all isVisible = true := by
  induction fs with
  | nil => rfl
  | cons f fs ih =>
    rw [List.forall_mem_cons] at hlabels
    simp only [closing, List.all_append, List.all_cons, all_isVisible_field hlabels.1,
      ih hlabels.2, Bool.and_true]
    rfl

/-- **A message holds visible characters only.** -/
theorem all_isVisible_message (e : RoutingError) : e.message.toList.all isVisible = true := by
  have hbody : (body e.fields).all isVisible = true := by
    have hlabels : ∀ f ∈ e.fields, f.1.toList.all isVisible = true := fun f hf =>
      all_isVisible_label hf
    cases hfields : e.fields with
    | nil => rfl
    | cons f rest =>
      rw [hfields, List.forall_mem_cons] at hlabels
      simp only [body, List.all_append, all_isVisible_field hlabels.1,
        all_isVisible_closing hlabels.2, Bool.and_true]
  simp only [toList_message, List.all_append, List.all_cons, all_isVisible_kind, hbody,
    Bool.and_true]
  rfl

theorem notMem_message {c : Char} (hc : isVisible c = false) (e : RoutingError) :
    c ∉ e.message.toList := fun hmem =>
  Bool.eq_false_iff.mp hc (List.all_eq_true.mp e.all_isVisible_message c hmem)

/-! ### Errors that are passed on -/

/-- An error that was passed on as the reason of a failed request to the last of the
endpoints, this one as the reason of one to the last but one, and so on. -/
def relayed (es : List Endpoint) (cause : RoutingError) : RoutingError :=
  es.foldr (fun e passed => .requestFailed e passed.message) cause

theorem relayed_cons (e : Endpoint) (es : List Endpoint) (cause : RoutingError) :
    relayed (e :: es) cause = .requestFailed e (relayed es cause).message := rfl

/-- **An error that was passed on can be read back**, with the way that it went. -/
theorem relayed_inj {es es' : List Endpoint} {cause cause' : RoutingError}
    (hlength : es.length = es'.length) (h : relayed es cause = relayed es' cause') :
    es = es' ∧ cause = cause' := by
  induction es generalizing es' with
  | nil =>
    cases es' with
    | nil => exact ⟨rfl, h⟩
    | cons e' es' => contradiction
  | cons e es ih =>
    cases es' with
    | nil => contradiction
    | cons e' es' =>
      -- the outermost endpoint is told apart from the message inside
      rw [relayed_cons, relayed_cons, requestFailed.injEq, message_inj] at h
      obtain ⟨rfl, hrest⟩ := h
      obtain ⟨rfl, rfl⟩ := ih (Nat.succ.inj hlength) hrest
      exact ⟨rfl, rfl⟩

/-- No message reads like the complaint about a request that took too long. -/
theorem message_ne_timedOut (e : RoutingError) (limit : String) :
    e.message ≠ "timed out after " ++ limit := by
  intro h
  have hfirst := congrArg (fun s => s.toList.head?) h
  have hkind : e.message.toList.head? = e.kind.toList.head? := by
    rw [toList_message, List.head?_append_of_ne_nil]
    cases e <;> simp [kind]
  simp only [hkind, String.toList_append] at hfirst
  cases e <;> simp [kind] at hfirst

/-- A failed request quotes the reason of its failure. -/
theorem message_requestFailed (e : Endpoint) (reason : String) :
    (requestFailed e reason).message =
      "RequestFailed \x7b endpoint: " ++ quoted e ++ ", reason: " ++ quoted reason ++ " \x7d" := by
  apply String.toList_injective
  simp [toList_message, kind, fields, body, closing, fieldChars, FieldValue.written]

/-- What the sender of a request is given tells a failure of the transport, and what it was. -/
theorem result_eq_broken_iff {x : Ending} {e e' : Endpoint} {cause : RoutingError} :
    x.result e = (Ending.broken cause).result e' ↔ x = .broken cause ∧ e = e' := by
  constructor
  · intro h
    cases x with
    | answered code => contradiction
    | broken cause' =>
      simp only [Ending.result, Except.error.injEq, requestFailed.injEq, message_inj] at h
      obtain ⟨rfl, rfl⟩ := h
      exact ⟨rfl, rfl⟩
    | timedOut limit =>
      simp only [Ending.result, Except.error.injEq, requestFailed.injEq] at h
      exact absurd h.2.symm (message_ne_timedOut cause _)
  · rintro ⟨rfl, rfl⟩
    rfl

/-- **Messages identify errors.**  An error is determined by its message, which holds no
character that would break the line or end the text.  A failure of the transport is carried by
the request as its reason, which is the message of the failure and is quoted again in the
message of the request; the failure is determined by what the sender of the request is given,
and if it is passed on any number of times, then by what is passed on in the end, together with
the way that it went. -/
theorem messages_identify :
    (∀ e e' : RoutingError, e.message = e'.message ↔ e = e') ∧
    (∀ e : RoutingError,
      '\n' ∉ e.message.toList ∧ '\r' ∉ e.message.toList ∧ '\x00' ∉ e.message.toList) ∧
    (∀ (cause : RoutingError) (e : Endpoint),
      (Ending.broken cause).result e = .error (.requestFailed e cause.message) ∧
      (requestFailed e cause.message).message =
        "RequestFailed \x7b endpoint: " ++ quoted e ++ ", reason: " ++ quoted cause.message ++
          " \x7d") ∧
    (∀ (x : Ending) (e e' : Endpoint) (cause : RoutingError),
      x.result e = (Ending.broken cause).result e' ↔ x = .broken cause ∧ e = e') ∧
    (∀ (es es' : List Endpoint) (cause cause' : RoutingError),
      es.length = es'.length ∧ (relayed es cause).message = (relayed es' cause').message ↔
        es = es' ∧ cause = cause') := by
  refine ⟨fun e e' => message_inj, fun e => ⟨?_, ?_, ?_⟩,
    fun cause e => ⟨rfl, message_requestFailed e cause.message⟩,
    fun x e e' cause => result_eq_broken_iff, fun es es' cause cause' => ⟨?_, ?_⟩⟩
  · exact notMem_message rfl e
  · exact notMem_message rfl e
  · exact notMem_message rfl e
  · rintro ⟨hlength, h⟩
    exact relayed_inj hlength (message_inj.mp h)
  · rintro ⟨rfl, rfl⟩
    exact ⟨rfl, rfl⟩

end RoutingError
end PartitionRouting
