import FogWS.Admission
/-!
# `send_text` and `send_bytes`: `src/py.rs`

`send_text` asks for admission twice: for the number of characters before the string is encoded, and for
the number of bytes after. `send_bytes` asks once.

| here | there |
| --- | --- |
| `PyStr` | `PyString`: code points, lone surrogates among them |
| `toStr` | `PyString::to_str` |
| `driverErrorToPython` | `driver_error_to_python` (py.rs:255), `attach_close_info` (py.rs:276) |
| `affinity` | what `ensure_loop_affinity` (py.rs:130) says, the same for both calls |
| `SendCall.result` | the exception, or what `send_admitted` is called with in the future |

The driver does not move during the call. `setattr` on a new exception succeeds.
-/
namespace FogWS

/-! ## Exceptions -/

inductive PyErrType where
  | concurrencyError
  | connectionClosedError
  | connectionClosedOk
  | connectionFailedError
  | invalidUriError
  | loopAffinityError
  | resourceLimitError
  | runtimeContextError
  | unicodeEncodeError
  deriving DecidableEq, Repr

/-- The attributes of `ConnectionClosed`. -/
structure PyCloseInfo where
  code : Option UInt16
  reason : String
  initiatedByLocal : Option Bool
  deriving DecidableEq, Repr

structure PyErr where
  type : PyErrType
  message : String
  close : Option PyCloseInfo
  deriving DecidableEq, Repr

/-- All of an exception but its text. -/
def PyErr.kind (e : PyErr) : PyErrType × Option PyCloseInfo := (e.type, e.close)

/-- `driver_error_to_python` (py.rs:255). -/
def driverErrorToPython : DriverError → PyErr
  | .closedError info =>
    ⟨.connectionClosedError, info.describe, some ⟨info.code, info.reason, some info.initiatedByLocal⟩⟩
  | .closedOk info =>
    ⟨.connectionClosedOk, info.describe, some ⟨info.code, info.reason, some info.initiatedByLocal⟩⟩
  | .concurrency message => ⟨.concurrencyError, message, none⟩
  | .connectionFailed message => ⟨.connectionFailedError, message, none⟩
  | .invalidUri message => ⟨.invalidUriError, message, none⟩
  | .resourceLimit message => ⟨.resourceLimitError, message, none⟩
  | .transport message => ⟨.connectionClosedError, message, some ⟨none, "", none⟩⟩

/-! ## Strings -/

abbrev CodePoint := Fin 0x110000

/-- `str`. -/
abbrev PyStr := List CodePoint

def CodePoint.isSurrogate (c : CodePoint) : Bool := 0xD800 ≤ c.val && c.val < 0xE000

def CodePoint.toChar (c : CodePoint) : Option Char :=
  if h : c.val.isValidChar then some (Char.ofNatAux c.val h) else none

/-- The characters of a string without lone surrogates. -/
def PyStr.toChars : PyStr → Option (List Char)
  | [] => some []
  | c :: cs =>
    match CodePoint.toChar c, PyStr.toChars cs with
    | some x, some xs => some (x :: xs)
    | _, _ => none

/-- `str(UnicodeEncodeError)`: the error names the first run of surrogates, and shows a single one. -/
def PyStr.encodeError (p : PyStr) : String :=
  let start := p.findIdx CodePoint.isSurrogate
  match (p.drop start).takeWhile CodePoint.isSurrogate with
  | [c] =>
    "'utf-8' codec can't encode character '\\u" ++ String.ofList (Nat.toDigits 16 c.val) ++ "' in position " ++
      toString start ++ ": surrogates not allowed"
  | run =>
    "'utf-8' codec can't encode characters in position " ++ toString start ++ "-" ++
      toString (start + run.length - 1) ++ ": surrogates not allowed"

/-- `PyString::to_str`. -/
def PyStr.toStr (p : PyStr) : Except PyErr String :=
  match p.toChars with
  | some chars => .ok (String.ofList chars)
  | none => .error ⟨.unicodeEncodeError, p.encodeError, none⟩

theorem isSurrogate_eq_false_iff {c : CodePoint} : c.isSurrogate = false ↔ c.val.isValidChar := by
  have hlt := c.isLt
  simp only [CodePoint.isSurrogate, Nat.isValidChar, Bool.and_eq_false_iff, decide_eq_false_iff_not]
  omega

theorem toChar_isSome {c : CodePoint} (h : c.isSurrogate = false) : ∃ x, c.toChar = some x := by
  have hvalid := isSurrogate_eq_false_iff.mp h
  exact ⟨Char.ofNatAux c.val hvalid, dif_pos hvalid⟩

theorem toChar_eq {c : CodePoint} {x : Char} (h : c.toChar = some x) : x.toNat = c.val := by
  unfold CodePoint.toChar at h
  by_cases hvalid : c.val.isValidChar
  · rw [dif_pos hvalid] at h
    cases h; rfl
  · rw [dif_neg hvalid] at h
    cases h

/-- What can be encoded is what has no lone surrogate. -/
theorem toChars_of_no_surrogate {p : PyStr} (h : ∀ c ∈ p, c.isSurrogate = false) :
    ∃ cs, p.toChars = some cs := by
  induction p with
  | nil => exact ⟨[], rfl⟩
  | cons c p ih =>
    obtain ⟨cs, hcs⟩ := ih fun x hx => h x (List.mem_cons_of_mem c hx)
    obtain ⟨x, hx⟩ := toChar_isSome (h c List.mem_cons_self)
    exact ⟨x :: cs, by simp only [PyStr.toChars, hx, hcs]⟩

theorem toChars_eq {p : PyStr} {cs : List Char} (h : p.toChars = some cs) :
    cs.map Char.toNat = p.map Fin.val := by
  induction p generalizing cs with
  | nil => cases h; rfl
  | cons c p ih =>
    simp only [PyStr.toChars] at h
    split at h
    · rename_i x xs hx hxs
      cases h
      rw [List.map_cons, List.map_cons, toChar_eq hx, ih hxs]
    · cases h

/-- A character is one to four bytes long. -/
theorem utf8ByteSize_ofList (cs : List Char) : cs.length ≤ (String.ofList cs).utf8ByteSize ∧
    (String.ofList cs).utf8ByteSize ≤ 4 * cs.length := by
  induction cs with
  | nil => simp
  | cons c cs ih =>
    have hpos := c.utf8Size_pos
    have hle := c.utf8Size_le_four
    rw [String.ofList_cons, String.utf8ByteSize_append, String.utf8ByteSize_singleton, List.length_cons]
    omega

/-- A conversion keeps the characters, and gives between one and four bytes for each. -/
theorem toStr_ok {p : PyStr} {text : String} (h : p.toStr = .ok text) :
    text.toList.map Char.toNat = p.map Fin.val ∧
      p.length ≤ text.utf8ByteSize ∧ text.utf8ByteSize ≤ 4 * p.length := by
  unfold PyStr.toStr at h
  split at h
  · rename_i cs hcs
    cases h
    have hmap := toChars_eq hcs
    have hlen : cs.length = p.length := by simpa using congrArg List.length hmap
    have hsize := utf8ByteSize_ofList cs
    rw [hlen] at hsize
    rw [String.toList_ofList]
    exact ⟨hmap, hsize⟩
  · cases h

/-- `str.encode`. -/
def utf8 (text : String) : List UInt8 := text.toUTF8.data.toList

/-! ## The calls -/

/-- A call of `send_text` or `send_bytes` that has returned to Python. -/
structure SendCall where
  result : Except PyErr (OutboundAdmission × Message)
  /-- What the call leaves of the outbound buffers. -/
  outbound : Outbound
  /-- What the UTF-8 conversion gave, if one was made. -/
  converted : Option (Except PyErr String)

section Calls

variable (config : ConnectionConfig) (state : DriverState) (outbound : Outbound)
  (affinity : Except PyErr Unit)

/-- `send_text` (py.rs:57). -/
def sendText (payload : PyStr) : SendCall :=
  match affinity with
  | .error e => ⟨.error e, outbound, none⟩
  | .ok () =>
    match validateOutboundMessage config state payload.length with
    | .error error => ⟨.error (driverErrorToPython error), outbound, none⟩
    | .ok () =>
      match payload.toStr with
      | .error e => ⟨.error e, outbound, some (.error e)⟩
      | .ok text =>
        match tryAdmitOutbound config state outbound text.utf8ByteSize with
        | (.error error, left) => ⟨.error (driverErrorToPython error), left, some (.ok text)⟩
        | (.ok admission, left) => ⟨.ok (admission, .text text), left, some (.ok text)⟩

/-- `send_bytes` (py.rs:80). -/
def sendBytes (payload : List UInt8) : SendCall :=
  match affinity with
  | .error e => ⟨.error e, outbound, none⟩
  | .ok () =>
    match tryAdmitOutbound config state outbound payload.length with
    | (.error error, left) => ⟨.error (driverErrorToPython error), left, none⟩
    | (.ok admission, left) => ⟨.ok (admission, .binary payload), left, none⟩

end Calls

/-! ## The two calls compared -/

/-- Two calls from the same state come to the same: the same bytes and the same slot taken for messages of
the same length, or nothing taken and exceptions of one kind. -/
inductive Alike (outbound : Outbound) : SendCall → SendCall → Prop
  | admitted {x y : SendCall} {a : OutboundAdmission} {m m' : Message} :
      x.result = .ok (a, m) → y.result = .ok (a, m') →
      m.len = a.messageSize → m'.len = a.messageSize →
      x.outbound = y.outbound → x.outbound.budget + a.bytePermit = outbound.budget →
      x.outbound.channel.free + 1 = outbound.channel.free → Alike outbound x y
  | refused {x y : SendCall} {e e' : PyErr} :
      x.result = .error e → y.result = .error e' → e.kind = e'.kind →
      x.outbound = outbound → y.outbound = outbound → Alike outbound x y

section Compared

variable {config : ConnectionConfig} {state : DriverState} {outbound : Outbound}
  {affinity : Except PyErr Unit} {p : PyStr} {text : String} {n m : Nat}

/-- What refuses a size refuses every larger one, with an exception of the same kind. -/
theorem validate_mono (hle : n ≤ m) {e : DriverError}
    (h : validateOutboundMessage config state n = .error e) :
    ∃ e', validateOutboundMessage config state m = .error e' ∧
      (driverErrorToPython e).kind = (driverErrorToPython e').kind := by
  by_cases hv : state = .opened
  · subst hv
    by_cases hn : n > config.maxMessageSize
    · have hm : m > config.maxMessageSize := by omega
      simp only [validateOutboundMessage, ensureOpen, hn, hm, if_true] at h ⊢
      cases h
      exact ⟨_, rfl, rfl⟩
    · simp only [validateOutboundMessage, ensureOpen, hn, if_false] at h
      cases h
  · exact ⟨e, by rw [validate_not_opened hv n]; exact h, rfl⟩

/-- **The prefilter** passes every string whose encoding passes. -/
theorem validate_of_encoded (htext : p.toStr = .ok text)
    (h : validateOutboundMessage config state text.utf8ByteSize = .ok ()) :
    validateOutboundMessage config state p.length = .ok () := by
  obtain ⟨hopen, hle⟩ := validate_ok_iff.mp h
  exact validate_ok_iff.mpr ⟨hopen, Nat.le_trans (toStr_ok htext).2.1 hle⟩

theorem length_utf8 (text : String) : (utf8 text).length = text.utf8ByteSize := by
  simp [utf8]

/-- **Both calls come to the same** for a string that can be encoded. -/
theorem sendText_alike (htext : p.toStr = .ok text) :
    Alike outbound (sendText config state outbound affinity p)
      (sendBytes config state outbound affinity (utf8 text)) := by
  cases affinity with
  | error e => exact .refused rfl rfl rfl rfl rfl
  | ok =>
    cases hv : validateOutboundMessage config state p.length with
    | error e =>
      -- the prefilter refuses, and so does the byte count
      obtain ⟨e', he', hkind⟩ := validate_mono (toStr_ok htext).2.1 hv
      have hbytes : tryAdmitOutbound config state outbound (utf8 text).length = (.error e', outbound) := by
        simp only [length_utf8, tryAdmitOutbound, he']
      simp only [sendText, sendBytes, hv, hbytes]
      exact .refused rfl rfl hkind rfl rfl
    | ok =>
      simp only [sendText, sendBytes, hv, htext, length_utf8]
      cases ha : tryAdmitOutbound config state outbound text.utf8ByteSize with
      | mk r left =>
        cases r with
        | error e =>
          have hleft := admit_error ha
          exact .refused rfl rfl rfl hleft hleft
        | ok a =>
          obtain ⟨rfl, -, hbudget, hfree⟩ := admit_ok ha
          exact .admitted rfl rfl rfl (length_utf8 text) rfl hbudget hfree

/-- A conversion is made of a string of at most `max_message_size` characters only. -/
theorem converted_le {r : Except PyErr String}
    (h : (sendText config state outbound affinity p).converted = some r) :
    r = p.toStr ∧ p.length ≤ config.maxMessageSize := by
  unfold sendText at h
  split at h
  · cases h
  · split at h
    · cases h
    · rename_i hv
      have hle := (validate_ok_iff.mp hv).2
      split at h
      · rename_i ht
        cases h
        exact ⟨ht.symm, hle⟩
      · rename_i ht
        split at h
        · cases h
          exact ⟨ht.symm, hle⟩
        · cases h
          exact ⟨ht.symm, hle⟩

variable (state outbound) in
/-- What refuses a string that is too long, whatever it is made of. -/
theorem sendText_overlong (hlong : config.maxMessageSize < p.length) : ∃ e,
    sendText config state outbound (.ok ()) p = ⟨.error (driverErrorToPython e), outbound, none⟩ ∧
      validateOutboundMessage config state p.length = .error e := by
  cases hv : validateOutboundMessage config state p.length with
  | error e => exact ⟨e, by simp only [sendText, hv], rfl⟩
  | ok => exact absurd (validate_ok_iff.mp hv).2 (Nat.not_le.mpr hlong)

end Compared

/-! ## The result -/

/-- **`send_text` and `send_bytes` admit alike**: a string without lone surrogates and its encoding come
to the same, and the prefilter passes every string whose encoding fits. A string with more than
`max_message_size` characters is refused without a conversion, by the limit if the connection is open and
by its state otherwise, so a conversion gives at most four times that many bytes. -/
theorem sends_admit_alike (config : ConnectionConfig) (state : DriverState) (outbound : Outbound)
    (affinity : Except PyErr Unit) (p : PyStr) :
    ((∀ c ∈ p, c.isSurrogate = false) → ∃ text,
      p.toStr = .ok text ∧ text.toList.map Char.toNat = p.map Fin.val ∧
      Alike outbound (sendText config state outbound affinity p)
        (sendBytes config state outbound affinity (utf8 text)) ∧
      (validateOutboundMessage config state text.utf8ByteSize = .ok () →
        validateOutboundMessage config state p.length = .ok ())) ∧
    (config.maxMessageSize < p.length →
      (sendText config state outbound affinity p).converted = none ∧
      (sendText config state outbound affinity p).outbound = outbound ∧
      ∃ e, (sendText config state outbound affinity p).result = .error e ∧
        (affinity = .ok () → state = .opened → e.type = .resourceLimitError) ∧
        (affinity = .ok () → ∀ error, ensureOpen state = .error error → e = driverErrorToPython error)) ∧
    (∀ text, (sendText config state outbound affinity p).converted = some (.ok text) →
      text.utf8ByteSize ≤ 4 * config.maxMessageSize) := by
  refine ⟨fun h => ?_, fun hlong => ?_, fun text h => ?_⟩
  · obtain ⟨cs, hcs⟩ := toChars_of_no_surrogate h
    have htext : p.toStr = .ok (String.ofList cs) := by simp only [PyStr.toStr, hcs]
    exact ⟨_, htext, (toStr_ok htext).1, sendText_alike htext, validate_of_encoded htext⟩
  · cases affinity with
    | error e => exact ⟨rfl, rfl, e, rfl, by rintro ⟨⟩, by rintro ⟨⟩⟩
    | ok =>
      obtain ⟨e, hcall, he⟩ := sendText_overlong state outbound hlong
      rw [hcall]
      refine ⟨rfl, rfl, _, rfl, fun _ hopen => ?_, fun _ error herror => ?_⟩
      · subst hopen
        simp only [validateOutboundMessage, ensureOpen, hlong, if_true] at he
        cases he; rfl
      · simp only [validateOutboundMessage, herror] at he
        cases he; rfl
  · obtain ⟨hstr, hle⟩ := converted_le h
    have := (toStr_ok hstr.symm).2.2
    omega

/-- Five lone surrogates are too long to be looked at. -/
example : (sendText .tiny .opened (start .tiny).outbound (.ok ()) (List.replicate 5 0xD800)).converted =
    none := rfl

/-- Two characters of two bytes fill a limit of four. -/
example : (sendText .tiny .opened (start .tiny).outbound (.ok ()) [0xE9, 0xE9]).result =
    .ok (⟨4, 4⟩, .text "éé") := rfl

end FogWS
