import Mathlib
import RecordBytes.Field

/-!
# Reading over an index

A cursor holds the bytes that are still unread, so a step of reading has nothing outside to reach for.  A reader
keeps a whole buffer and the index of its next byte instead: it takes the index from the length of the buffer, looks
up the byte at the index and cuts stretches out of the buffer, and each of these can be outside.  Every step of
reading that is put together from the calls of a cursor has a twin that makes the same calls of a reader.  From an
index inside the buffer a twin is never outside, and finds what the step finds.

Main definitions:

- `Reader`, `Call`: a buffer with an index, and steps over it that stop where they would be outside.
- `Twin`: the same calls of a cursor and of a reader; `Indexed`: a step that has a twin.
- `Follows`: a call that is never outside and agrees with a step of reading.

Main results:

- `Reader.follows_byte`, `Reader.follows_take`, `Reader.follows_skip`, `Reader.follows_rest`: the single calls.
- `Twin.follows`: whole twins.
- `Indexed.bind`, `Indexed.counting`, `Indexed.peeking`: what steps with twins are put together to.
-/

namespace RecordBytes

/-! ## Readers -/

/-- A buffer, the index of the next byte in it, and what every byte is combined with as it is read. -/
structure Reader where
  bytes : Bytes
  position : Nat
  mask : UInt8

/-- Why a step over a reader stops: it is outside the buffer, or it fails as a step of reading does. -/
inductive Stop (ε : Type)
  | outside
  | failed (fault : ε)

/-- A step over a reader. -/
abbrev Call (ε α : Type) := EStateM (Stop ε) Reader α

namespace Reader

variable {ε ε' α : Type}

/-- What has to be there. -/
def present : Option α → Call ε α
  | some found => pure found
  | none => throw .outside

/-- A length less another one, which is not greater. -/
def difference (whole part : Nat) : Call ε Nat :=
  if part ≤ whole then pure (whole - part) else throw .outside

/-- The number of bytes from the index on. -/
def remaining : Call ε Nat := do
  let reader ← get
  difference reader.bytes.length reader.position

/-- Fails unless that many bytes are left. -/
def ensure (count : Nat) (what : String) : Call Damage Unit := do
  if (← remaining) < count then throw (.failed (.endOfInput what))

/-- The reader with the index moved on. -/
def advance (reader : Reader) (count : Nat) : Reader :=
  { reader with position := reader.position + count }

/-- The next byte, read. -/
def byte (what : String) : Call Damage UInt8 := do
  ensure 1 what
  let reader ← get
  let first ← present reader.bytes[reader.position]?
  set (reader.advance 1)
  return first ^^^ reader.mask

/-- The next `count` bytes. -/
def take (count : Nat) (what : String) : Call Damage Bytes := do
  ensure count what
  let reader ← get
  let taken ← present (slice? reader.bytes reader.position (reader.position + count))
  set (reader.advance count)
  return taken.map (· ^^^ reader.mask)

/-- The next `count` bytes, passed over. -/
def skip (count : Nat) (what : String) : Call Damage Unit := do
  ensure count what
  modify (·.advance count)

/-- All bytes from the index on, as they are, left in place. -/
def rest : Call ε Bytes := do
  let reader ← get
  present (slice? reader.bytes reader.position reader.bytes.length)

/-- The mask for what follows. -/
def setMask (mask : UInt8) : Call ε Unit :=
  modify fun reader => { reader with mask := mask }

/-- A stretch that is read with the mask flipped; the mask is restored behind it. -/
def complemented (call : Call ε α) : Call ε α := fun reader =>
  match call { reader with mask := ~~~reader.mask } with
  | .ok found after => .ok found { after with mask := reader.mask }
  | .error stop after => .error stop { after with mask := reader.mask }

/-- A step that gives another fault where the given one fails, and is outside where it is. -/
def blaming (convert : ε → ε') (call : Call ε α) : Call ε' α := fun reader =>
  match call reader with
  | .ok found after => .ok found after
  | .error (.failed fault) after => .error (.failed (convert fault)) after
  | .error .outside after => .error .outside after

/-- The cursor at the index. -/
def cursor (reader : Reader) : Cursor :=
  ⟨reader.position, reader.bytes.drop reader.position, reader.mask⟩

/-- The index is inside the buffer, or behind its last byte. -/
def Inside (reader : Reader) : Prop :=
  reader.position ≤ reader.bytes.length

end Reader

/-! ## Steps of reading that have no name of their own -/

namespace Cursor

variable {ε ε' α : Type}

/-- The number of bytes that are unread. -/
def count : EStateM ε Cursor Nat := fun cursor => .ok cursor.remaining cursor

/-- The bytes that are unread, left in place. -/
def rest : EStateM ε Cursor Bytes := fun cursor => .ok cursor.unread cursor

/-- A step that gives another fault where the given one fails. -/
def blaming (convert : ε → ε') (step : EStateM ε Cursor α) : EStateM ε' Cursor α := fun cursor =>
  match step cursor with
  | .ok found after => .ok found after
  | .error fault after => .error (convert fault) after

end Cursor

/-! ## Twins -/

/-- A step of reading, and the step over a reader that makes the same calls in the same order. -/
inductive Twin : {ε α : Type} → EStateM ε Cursor α → Call ε α → Prop
  | pure {ε α : Type} (found : α) : Twin (Pure.pure found : EStateM ε Cursor α) (Pure.pure found)
  | throw {ε α : Type} (fault : ε) :
      Twin (MonadExcept.throw fault : EStateM ε Cursor α) (MonadExcept.throw (Stop.failed fault))
  | bind {ε α β : Type} {step : EStateM ε Cursor α} {call : Call ε α} {next : α → EStateM ε Cursor β}
      {nextCall : α → Call ε β} (h : Twin step call) (hnext : ∀ found, Twin (next found) (nextCall found)) :
      Twin (step >>= next) (call >>= nextCall)
  | byte (what : String) : Twin (Scan.byte what) (Reader.byte what)
  | take (count : Nat) (what : String) : Twin (Scan.take count what) (Reader.take count what)
  | skip (count : Nat) (what : String) : Twin (Scan.skip count what) (Reader.skip count what)
  | remaining {ε : Type} : Twin (Cursor.count : EStateM ε Cursor Nat) Reader.remaining
  | rest {ε : Type} : Twin (Cursor.rest : EStateM ε Cursor Bytes) Reader.rest
  | setMask (mask : UInt8) : Twin (Scan.setMask mask) (Reader.setMask mask)
  | complemented {α : Type} {scan : Scan α} {call : Call Damage α} (h : Twin scan call) :
      Twin (Scan.complemented scan) (Reader.complemented call)
  | blaming {ε ε' α : Type} {step : EStateM ε Cursor α} {call : Call ε α} (convert : ε → ε') (h : Twin step call) :
      Twin (Cursor.blaming convert step) (Reader.blaming convert call)

/-- A step over a reader ends as a step of reading does, in the same buffer, inside it and at the same place: it is
not outside. -/
inductive Agrees {ε α : Type} (bytes : Bytes) :
    EStateM.Result (Stop ε) Reader α → EStateM.Result ε Cursor α → Prop
  | found (found : α) {reader : Reader} (hbytes : reader.bytes = bytes) (hinside : reader.Inside) :
      Agrees bytes (.ok found reader) (.ok found reader.cursor)
  | failed (fault : ε) {reader : Reader} (hbytes : reader.bytes = bytes) (hinside : reader.Inside) :
      Agrees bytes (.error (.failed fault) reader) (.error fault reader.cursor)

/-- From any index inside any buffer, the call ends as the step of reading does. -/
def Follows {ε α : Type} (call : Call ε α) (step : EStateM ε Cursor α) : Prop :=
  ∀ reader : Reader, reader.Inside → Agrees reader.bytes (call reader) (step reader.cursor)

/-! ## Single calls -/

namespace Reader

variable {ε ε' α β : Type} {reader : Reader}

theorem remaining_cursor (reader : Reader) :
    reader.cursor.remaining = reader.bytes.length - reader.position := by
  simp [cursor, Cursor.remaining]

/-- Inside the buffer, the index can be taken from its length. -/
theorem remaining_of_inside (h : reader.Inside) :
    (remaining : Call ε Nat) reader = .ok reader.cursor.remaining reader := by
  have hdifference : (difference reader.bytes.length reader.position : Call ε Nat) =
      pure (reader.bytes.length - reader.position) := if_pos h
  rw [remaining_cursor]
  change (difference reader.bytes.length reader.position : Call ε Nat) reader = _
  rw [hdifference]
  rfl

theorem ensure_of_short {count : Nat} {what : String} (h : reader.Inside) (hshort : reader.cursor.remaining < count) :
    ensure count what reader = .error (.failed (.endOfInput what)) reader := by
  simp only [ensure, Bind.bind, EStateM.bind, remaining_of_inside h, if_pos hshort]
  rfl

theorem ensure_of_long {count : Nat} {what : String} (h : reader.Inside)
    (hlong : ¬ reader.cursor.remaining < count) : ensure count what reader = .ok () reader := by
  simp only [ensure, Bind.bind, EStateM.bind, remaining_of_inside h, if_neg hlong]
  rfl

/-- A stretch that is as long as what was made sure of ends inside the buffer. -/
theorem inside_advance {count : Nat} (h : reader.Inside) (hlong : ¬ reader.cursor.remaining < count) :
    (reader.advance count).Inside := by
  rw [remaining_cursor] at hlong
  unfold Inside at h ⊢
  change reader.position + count ≤ reader.bytes.length
  omega

theorem cursor_advance (reader : Reader) (count : Nat) :
    (reader.advance count).cursor = reader.cursor.advance count := by
  simp [cursor, advance, Cursor.advance]

/-- The first of the unread bytes is the one at the index. -/
theorem getElem?_position {first : UInt8} {behind : Bytes} (h : reader.cursor.unread = first :: behind) :
    reader.bytes[reader.position]? = some first := by
  have hhead : (reader.bytes.drop reader.position)[0]? = some first := by
    change reader.cursor.unread[0]? = some first
    rw [h]
    rfl
  rwa [List.getElem?_drop, Nat.add_zero] at hhead

theorem follows_byte (what : String) : Follows (byte what) (Scan.byte what) := by
  intro reader h
  cases hunread : reader.cursor.unread with
  | nil =>
    have hshort : reader.cursor.remaining < 1 := by simp [Cursor.remaining, hunread]
    have hstep : Scan.byte what reader.cursor = .error (.endOfInput what) reader.cursor := by
      simp [Scan.byte, hunread]
    have hcall : byte what reader = .error (.failed (.endOfInput what)) reader := by
      simp only [byte, Bind.bind, EStateM.bind, ensure_of_short h hshort]
    rw [hcall, hstep]
    exact Agrees.failed _ rfl h
  | cons first behind =>
    have hlong : ¬ reader.cursor.remaining < 1 := by simp [Cursor.remaining, hunread]
    have hstep : Scan.byte what reader.cursor = .ok (first ^^^ reader.mask) (reader.advance 1).cursor := by
      rw [cursor_advance]
      simp only [Scan.byte, hunread]
      rfl
    have hcall : byte what reader = .ok (first ^^^ reader.mask) (reader.advance 1) := by
      simp only [byte, Bind.bind, EStateM.bind, ensure_of_long h hlong, get, getThe, MonadStateOf.get, EStateM.get,
        getElem?_position hunread]
      rfl
    rw [hcall, hstep]
    exact Agrees.found _ rfl (inside_advance h hlong)

theorem follows_take (count : Nat) (what : String) : Follows (take count what) (Scan.take count what) := by
  intro reader h
  by_cases hshort : reader.cursor.remaining < count
  · have hstep : Scan.take count what reader.cursor = .error (.endOfInput what) reader.cursor := if_pos hshort
    have hcall : take count what reader = .error (.failed (.endOfInput what)) reader := by
      simp only [take, Bind.bind, EStateM.bind, ensure_of_short h hshort]
    rw [hcall, hstep]
    exact Agrees.failed _ rfl h
  · have hend : reader.position + count ≤ reader.bytes.length := inside_advance h hshort
    have hstep : Scan.take count what reader.cursor =
        .ok ((reader.cursor.unread.take count).map (· ^^^ reader.mask)) (reader.advance count).cursor := by
      rw [cursor_advance]
      exact if_neg hshort
    have hslice : slice? reader.bytes reader.position (reader.position + count) =
        some (reader.cursor.unread.take count) := by
      rw [slice?, if_pos ⟨Nat.le_add_right _ _, hend⟩, List.drop_take, Nat.add_sub_cancel_left]
      rfl
    have hcall : take count what reader =
        .ok ((reader.cursor.unread.take count).map (· ^^^ reader.mask)) (reader.advance count) := by
      simp only [take, Bind.bind, EStateM.bind, ensure_of_long h hshort, get, getThe, MonadStateOf.get, EStateM.get,
        hslice]
      rfl
    rw [hcall, hstep]
    exact Agrees.found _ rfl (inside_advance h hshort)

theorem follows_skip (count : Nat) (what : String) : Follows (skip count what) (Scan.skip count what) := by
  intro reader h
  by_cases hshort : reader.cursor.remaining < count
  · have hstep : Scan.skip count what reader.cursor = .error (.endOfInput what) reader.cursor := if_pos hshort
    have hcall : skip count what reader = .error (.failed (.endOfInput what)) reader := by
      simp only [skip, Bind.bind, EStateM.bind, ensure_of_short h hshort]
    rw [hcall, hstep]
    exact Agrees.failed _ rfl h
  · have hstep : Scan.skip count what reader.cursor = .ok () (reader.advance count).cursor := by
      rw [cursor_advance]
      exact if_neg hshort
    have hcall : skip count what reader = .ok () (reader.advance count) := by
      simp only [skip, Bind.bind, EStateM.bind, ensure_of_long h hshort]
      rfl
    rw [hcall, hstep]
    exact Agrees.found _ rfl (inside_advance h hshort)

theorem follows_remaining : Follows (remaining : Call ε Nat) Cursor.count := by
  intro reader h
  rw [remaining_of_inside h]
  exact Agrees.found _ rfl h

theorem follows_rest : Follows (rest : Call ε Bytes) Cursor.rest := by
  intro reader h
  have hslice : slice? reader.bytes reader.position reader.bytes.length = some reader.cursor.unread := by
    rw [slice?, if_pos ⟨h, Nat.le_refl _⟩, List.take_length]
    rfl
  have hcall : (rest : Call ε Bytes) reader = .ok reader.cursor.unread reader := by
    simp only [rest, Bind.bind, EStateM.bind, get, getThe, MonadStateOf.get, EStateM.get, hslice]
    rfl
  rw [hcall]
  exact Agrees.found _ rfl h

theorem follows_setMask (mask : UInt8) : Follows (setMask mask) (Scan.setMask mask) := by
  intro reader h
  exact Agrees.found () rfl h

/-! ## Calls made of calls -/

theorem follows_bind {step : EStateM ε Cursor α} {call : Call ε α} {next : α → EStateM ε Cursor β}
    {nextCall : α → Call ε β} (h : Follows call step) (hnext : ∀ found, Follows (nextCall found) (next found)) :
    Follows (call >>= nextCall) (step >>= next) := by
  intro reader hinside
  have hfirst := h reader hinside
  simp only [Bind.bind, EStateM.bind]
  generalize call reader = ended at hfirst ⊢
  generalize step reader.cursor = read at hfirst ⊢
  cases hfirst with
  | found found hbytes hinside =>
    rw [← hbytes]
    exact hnext found _ hinside
  | failed fault hbytes hinside => exact Agrees.failed fault hbytes hinside

/-- A mask does not move the index. -/
theorem follows_complemented {scan : Scan α} {call : Call Damage α} (h : Follows call scan) :
    Follows (complemented call) (Scan.complemented scan) := by
  intro reader hinside
  have hflipped := h { reader with mask := ~~~reader.mask } hinside
  have hcursor : ({ reader with mask := ~~~reader.mask } : Reader).cursor =
      { reader.cursor with mask := ~~~reader.cursor.mask } := rfl
  rw [hcursor] at hflipped
  unfold complemented Scan.complemented
  generalize call { reader with mask := ~~~reader.mask } = ended at hflipped ⊢
  generalize scan { reader.cursor with mask := ~~~reader.cursor.mask } = read at hflipped ⊢
  cases hflipped with
  | found found hbytes hinside => exact Agrees.found found hbytes hinside
  | failed fault hbytes hinside => exact Agrees.failed fault hbytes hinside

theorem follows_blaming {step : EStateM ε Cursor α} {call : Call ε α} (convert : ε → ε') (h : Follows call step) :
    Follows (blaming convert call) (Cursor.blaming convert step) := by
  intro reader hinside
  have hgiven := h reader hinside
  unfold blaming Cursor.blaming
  generalize call reader = ended at hgiven ⊢
  generalize step reader.cursor = read at hgiven ⊢
  cases hgiven with
  | found found hbytes hinside => exact Agrees.found found hbytes hinside
  | failed fault hbytes hinside => exact Agrees.failed (convert fault) hbytes hinside

end Reader

/-- A twin is never outside, and finds what the step of reading finds. -/
theorem Twin.follows {ε α : Type} {step : EStateM ε Cursor α} {call : Call ε α} (h : Twin step call) :
    Follows call step := by
  induction h with
  | pure found => exact fun _ hinside => Agrees.found found rfl hinside
  | throw fault => exact fun _ hinside => Agrees.failed fault rfl hinside
  | bind _ _ ih ihNext => exact Reader.follows_bind ih ihNext
  | byte what => exact Reader.follows_byte what
  | take count what => exact Reader.follows_take count what
  | skip count what => exact Reader.follows_skip count what
  | remaining => exact Reader.follows_remaining
  | rest => exact Reader.follows_rest
  | setMask mask => exact Reader.follows_setMask mask
  | complemented _ ih => exact Reader.follows_complemented ih
  | blaming convert _ ih => exact Reader.follows_blaming convert ih

/-! ## Steps that have a twin -/

/-- The step is put together from the calls of a cursor, so that it has a twin. -/
def Indexed {ε α : Type} (step : EStateM ε Cursor α) : Prop :=
  ∃ call : Call ε α, Twin step call

namespace Indexed

variable {ε ε' α β : Type}

theorem pure (found : α) : Indexed (Pure.pure found : EStateM ε Cursor α) :=
  ⟨_, Twin.pure found⟩

theorem throw (fault : ε) : Indexed (MonadExcept.throw fault : EStateM ε Cursor α) :=
  ⟨_, Twin.throw fault⟩

/-- Each finding of a step has a twin of what is behind it. -/
theorem bind {step : EStateM ε Cursor α} {next : α → EStateM ε Cursor β} (h : Indexed step)
    (hnext : ∀ found, Indexed (next found)) : Indexed (step >>= next) := by
  rcases h with ⟨call, hcall⟩
  choose nextCall hnextCall using hnext
  exact ⟨_, Twin.bind hcall hnextCall⟩

/-- A step that only takes what was found as something else. -/
theorem map {step : EStateM ε Cursor α} (h : Indexed step) (convert : α → β) :
    Indexed (step >>= fun found => Pure.pure (convert found)) :=
  h.bind fun _ => pure _

theorem byte (what : String) : Indexed (Scan.byte what) :=
  ⟨_, Twin.byte what⟩

theorem take (count : Nat) (what : String) : Indexed (Scan.take count what) :=
  ⟨_, Twin.take count what⟩

theorem skip (count : Nat) (what : String) : Indexed (Scan.skip count what) :=
  ⟨_, Twin.skip count what⟩

theorem number (count : Nat) (what : String) : Indexed (Scan.number count what) :=
  (take count what).map _

theorem setMask (mask : UInt8) : Indexed (Scan.setMask mask) :=
  ⟨_, Twin.setMask mask⟩

theorem complemented {scan : Scan α} (h : Indexed scan) : Indexed (Scan.complemented scan) := by
  rcases h with ⟨call, hcall⟩
  exact ⟨_, Twin.complemented hcall⟩

theorem blaming {step : EStateM ε Cursor α} (h : Indexed step) (convert : ε → ε') :
    Indexed (Cursor.blaming convert step) := by
  rcases h with ⟨call, hcall⟩
  exact ⟨_, Twin.blaming convert hcall⟩

/-- A step that asks how many bytes are unread before it goes on. -/
theorem counting {next : Nat → EStateM ε Cursor α} (h : ∀ count, Indexed (next count)) :
    Indexed (Cursor.count >>= next) :=
  bind ⟨_, Twin.remaining⟩ h

/-- A step that looks at all bytes that are unread before it goes on. -/
theorem peeking {next : Bytes → EStateM ε Cursor α} (h : ∀ unread, Indexed (next unread)) :
    Indexed (Cursor.rest >>= next) :=
  bind ⟨_, Twin.rest⟩ h

theorem ofExcept (outcome : Except Damage α) : Indexed (Scan.ofExcept outcome) := by
  cases outcome with
  | ok found => exact pure found
  | error damage => exact throw damage

end Indexed
end RecordBytes
