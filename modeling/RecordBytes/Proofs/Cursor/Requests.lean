import Mathlib
import RecordBytes.Proofs.Cursor.Indexed

/-!
# Requests to a cursor

All reading goes through a cursor, one request after another: for bytes to be read, looked at or passed over, for
another mask, or for all that is left.  Whatever the requests are, the cursor stays in its buffer.  One that asks for
more than is left is refused and changes nothing; any other one is served from the bytes behind the position, seen
through the mask that is in force.  So what a run of requests tells is the front of the buffer, in order, with gaps
where bytes were passed over.

Main definitions:

- `Cursor.Request`, `Cursor.serve`, `Cursor.after`: requests, served one by one.
- `Cursor.told`: what the replies of a run tell of the bytes that the cursor has moved over.
- `Cursor.Passed`: a cursor behind a stretch of bytes.

Main results:

- `Cursor.scan_of_short`, `Cursor.scan_of_enough`: what becomes of one request.
- `Cursor.passed_serve`, `Cursor.passed_after`: the stretch that a request, and a run of them, moves over.
- `Cursor.serves_faithfully`: runs of requests, from the front of any buffer.
-/

namespace RecordBytes

/-! ## Requests -/

/-- The next byte of a reader, left in place. -/
def Reader.peek (what : String) : Call Damage UInt8 := do
  ensure 1 what
  let reader ← get
  let first ← present reader.bytes[reader.position]?
  return first ^^^ reader.mask

theorem Reader.follows_peek (what : String) : Follows (Reader.peek what) (Scan.peek what) := by
  intro reader h
  cases hunread : reader.cursor.unread with
  | nil =>
    have hshort : reader.cursor.remaining < 1 := by simp [Cursor.remaining, hunread]
    have hstep : Scan.peek what reader.cursor = .error (.endOfInput what) reader.cursor := by
      simp [Scan.peek, hunread]
    have hcall : peek what reader = .error (.failed (.endOfInput what)) reader := by
      simp only [peek, Bind.bind, EStateM.bind, ensure_of_short h hshort]
    rw [hcall, hstep]
    exact Agrees.failed _ rfl h
  | cons first behind =>
    have hlong : ¬ reader.cursor.remaining < 1 := by simp [Cursor.remaining, hunread]
    have hstep : Scan.peek what reader.cursor = .ok (first ^^^ reader.mask) reader.cursor := by
      simp only [Scan.peek, hunread]
      rfl
    have hcall : peek what reader = .ok (first ^^^ reader.mask) reader := by
      simp only [peek, Bind.bind, EStateM.bind, ensure_of_long h hlong, get, getThe, MonadStateOf.get, EStateM.get,
        getElem?_position hunread]
      rfl
    rw [hcall, hstep]
    exact Agrees.found _ rfl h

namespace Cursor

/-- A request to a cursor. -/
inductive Request
  | byte (what : String)
  | peek (what : String)
  | take (count : Nat) (what : String)
  | skip (count : Nat) (what : String)
  | setMask (mask : UInt8)
  | rest

namespace Request

/-- The step that serves a request, with the bytes that it gives. -/
def scan : Request → Scan Bytes
  | byte what => do return [← Scan.byte what]
  | peek what => do return [← Scan.peek what]
  | take count what => Scan.take count what
  | skip count what => do Scan.skip count what; return []
  | setMask mask => do Scan.setMask mask; return []
  | rest => Cursor.rest

/-- The step that serves a request over an index. -/
def call : Request → Call Damage Bytes
  | byte what => do return [← Reader.byte what]
  | peek what => do return [← Reader.peek what]
  | take count what => Reader.take count what
  | skip count what => do Reader.skip count what; return []
  | setMask mask => do Reader.setMask mask; return []
  | rest => Reader.rest

/-- The number of bytes that a request asks for, and what for. -/
def asks : Request → Option (Nat × String)
  | byte what | peek what => some (1, what)
  | take count what | skip count what => some (count, what)
  | setMask _ | rest => none

/-- The bytes that a request is given of those ahead. -/
def given (ahead : Bytes) (mask : UInt8) : Request → Bytes
  | byte _ | peek _ => (ahead.take 1).map (· ^^^ mask)
  | take count _ => (ahead.take count).map (· ^^^ mask)
  | skip _ _ | setMask _ => []
  | rest => ahead

/-- The cursor behind a request that is served: only reading and passing over move it. -/
def behind (cursor : Cursor) : Request → Cursor
  | byte _ => cursor.advance 1
  | take count _ | skip count _ => cursor.advance count
  | setMask mask => { cursor with mask := mask }
  | peek _ | rest => cursor

/-- What a reply tells of the bytes that the cursor has moved over: those that were read, without the mask, and
nothing of those that were passed over. -/
def told (mask : UInt8) : Request → Except Damage Bytes → List (Option UInt8)
  | byte _, .ok given | take _ _, .ok given => given.map fun byte => some (byte ^^^ mask)
  | skip count _, .ok _ => List.replicate count none
  | _, _ => []

end Request

/-- The reply to a request, and the cursor after it. -/
def serve (cursor : Cursor) (request : Request) : Except Damage Bytes × Cursor :=
  match request.scan cursor with
  | .ok given after => (.ok given, after)
  | .error damage after => (.error damage, after)

/-- The cursor after some requests, one after another; one that is refused does not end them. -/
def after (cursor : Cursor) : List Request → Cursor
  | [] => cursor
  | request :: requests => (cursor.serve request).2.after requests

/-- What the replies to some requests tell of the bytes that the cursor has moved over. -/
def told (cursor : Cursor) : List Request → List (Option UInt8)
  | [] => []
  | request :: requests =>
    request.told cursor.mask (cursor.serve request).1 ++ (cursor.serve request).2.told requests

/-! ## One request -/

variable {cursor later : Cursor} {request : Request} {count : Nat} {what : String}

/-- A request for more than is left is refused and changes nothing. -/
theorem scan_of_short (h : request.asks = some (count, what)) (hshort : cursor.remaining < count) :
    request.scan cursor = .error (.endOfInput what) cursor := by
  cases request with
  | byte | peek =>
    cases h
    have hunread : cursor.unread = [] := List.length_eq_zero_iff.mp (Nat.lt_one_iff.mp hshort)
    simp [Request.scan, Scan.byte, Scan.peek, Bind.bind, EStateM.bind, hunread]
  | take =>
    cases h
    exact if_pos hshort
  | skip =>
    cases h
    simp [Request.scan, Scan.skip, Bind.bind, EStateM.bind, hshort]
  | setMask | rest => cases h

/-- Any other request is served from the bytes ahead. -/
theorem scan_of_enough (h : ∀ count what, request.asks = some (count, what) → count ≤ cursor.remaining) :
    request.scan cursor = .ok (request.given cursor.unread cursor.mask) (request.behind cursor) := by
  cases request with
  | byte what =>
    rcases List.exists_cons_of_length_pos (h _ _ rfl) with ⟨first, behind, hunread⟩
    simp [Request.scan, Scan.byte, Bind.bind, EStateM.bind, pure, EStateM.pure, hunread, Request.given,
      Request.behind]
  | peek what =>
    rcases List.exists_cons_of_length_pos (h _ _ rfl) with ⟨first, behind, hunread⟩
    simp [Request.scan, Scan.peek, Bind.bind, EStateM.bind, pure, EStateM.pure, hunread, Request.given,
      Request.behind]
  | take count what => exact if_neg (Nat.not_lt.mpr (h _ _ rfl))
  | skip count what =>
    have hlong : ¬ cursor.remaining < count := Nat.not_lt.mpr (h _ _ rfl)
    simp [Request.scan, Scan.skip, Bind.bind, EStateM.bind, pure, EStateM.pure, hlong, Request.given, Request.behind]
  | setMask mask => rfl
  | rest => rfl

/-- A request is refused when it asks for more than is left, and served when it does not. -/
theorem serve_cases (cursor : Cursor) (request : Request) :
    (∃ count what, request.asks = some (count, what) ∧ cursor.remaining < count ∧
      cursor.serve request = (.error (.endOfInput what), cursor)) ∨
    (∀ count what, request.asks = some (count, what) → count ≤ cursor.remaining) ∧
      cursor.serve request = (.ok (request.given cursor.unread cursor.mask), request.behind cursor) := by
  by_cases hshort : ∃ count what, request.asks = some (count, what) ∧ cursor.remaining < count
  · rcases hshort with ⟨count, what, hasks, hlt⟩
    refine Or.inl ⟨count, what, hasks, hlt, ?_⟩
    rw [serve, scan_of_short hasks hlt]
  · have henough : ∀ count what, request.asks = some (count, what) → count ≤ cursor.remaining :=
      fun count what hasks => Nat.le_of_not_lt fun hlt => hshort ⟨count, what, hasks, hlt⟩
    refine Or.inr ⟨henough, ?_⟩
    rw [serve, scan_of_enough henough]

/-- What is to be seen of a request when the bytes ahead are given: it is refused exactly when it asks for more than
is left, and then nothing changes; otherwise it is served from the bytes ahead. -/
structure Serves (cursor : Cursor) (ahead : Bytes) (request : Request) : Prop where
  refused_iff : ∀ damage, (cursor.serve request).1 = .error damage ↔
    ∃ count what, request.asks = some (count, what) ∧ cursor.remaining < count ∧ damage = .endOfInput what
  kept : ∀ damage, (cursor.serve request).1 = .error damage → (cursor.serve request).2 = cursor
  served : ∀ given, (cursor.serve request).1 = .ok given →
    given = request.given ahead cursor.mask ∧ (cursor.serve request).2 = request.behind cursor

theorem serves (cursor : Cursor) (request : Request) : cursor.Serves cursor.unread request := by
  rcases serve_cases cursor request with ⟨count, what, hasks, hlt, hserve⟩ | ⟨henough, hserve⟩
  · refine ⟨?_, ?_, ?_⟩
    · intro damage
      rw [hserve, Except.error.injEq]
      constructor
      · rintro rfl
        exact ⟨count, what, hasks, hlt, rfl⟩
      · rintro ⟨other, about, hother, -, rfl⟩
        cases hasks.symm.trans hother
        rfl
    · intro damage _
      rw [hserve]
    · intro given hgiven
      rw [hserve] at hgiven
      cases hgiven
  · refine ⟨?_, ?_, ?_⟩
    · intro damage
      rw [hserve]
      refine iff_of_false nofun ?_
      rintro ⟨count, what, hasks, hlt, -⟩
      exact hlt.not_ge (henough count what hasks)
    · intro damage hdamage
      rw [hserve] at hdamage
      cases hdamage
    · intro given hgiven
      rw [hserve] at hgiven ⊢
      exact ⟨(Except.ok.inj hgiven).symm, rfl⟩

/-! ## Stretches -/

/-- A cursor is behind a stretch that another one has ahead. -/
structure Passed (cursor later : Cursor) (stretch : Bytes) : Prop where
  unread_eq : cursor.unread = stretch ++ later.unread
  position_eq : later.position = cursor.position + stretch.length

/-- A cursor at the same place is behind nothing, whatever its mask is. -/
theorem Passed.nil (hunread : cursor.unread = later.unread) (hposition : later.position = cursor.position) :
    cursor.Passed later [] :=
  ⟨hunread, hposition⟩

theorem Passed.append {middle : Cursor} {front back : Bytes} (h : cursor.Passed middle front)
    (hback : middle.Passed later back) : cursor.Passed later (front ++ back) where
  unread_eq := by rw [h.unread_eq, hback.unread_eq, List.append_assoc]
  position_eq := by rw [hback.position_eq, h.position_eq, List.length_append, Nat.add_assoc]

/-- Moving on passes the bytes that are next. -/
theorem passed_advance (h : count ≤ cursor.remaining) :
    cursor.Passed (cursor.advance count) (cursor.unread.take count) where
  unread_eq := (List.take_append_drop _ _).symm
  position_eq := by rw [List.length_take_of_le h]; rfl

/-- What is known of a byte, if anything, is what it is. -/
def Tells (known : Option UInt8) (byte : UInt8) : Prop :=
  ∀ told ∈ known, told = byte

theorem tells_known (bytes : Bytes) : List.Forall₂ Tells (bytes.map some) bytes := by
  induction bytes with
  | nil => exact List.Forall₂.nil
  | cons first rest ih => exact List.Forall₂.cons (by simp [Tells]) ih

theorem tells_unknown (bytes : Bytes) : List.Forall₂ Tells (List.replicate bytes.length none) bytes := by
  induction bytes with
  | nil => exact List.Forall₂.nil
  | cons first rest ih => exact List.Forall₂.cons (by simp [Tells]) ih

/-- A byte that is read through a mask and taken back through it is as it was. -/
theorem map_told (mask : UInt8) (bytes : Bytes) :
    (bytes.map (· ^^^ mask)).map (fun byte => some (byte ^^^ mask)) = bytes.map some := by
  rw [List.map_map]
  refine List.map_congr_left fun byte _ => ?_
  rw [Function.comp_apply, UInt8.xor_assoc, UInt8.xor_self, UInt8.xor_zero]

/-- A request moves over a stretch, and tells what it has read of it. -/
theorem passed_serve (cursor : Cursor) (request : Request) :
    ∃ stretch, cursor.Passed (cursor.serve request).2 stretch ∧
      List.Forall₂ Tells (request.told cursor.mask (cursor.serve request).1) stretch := by
  rcases serve_cases cursor request with ⟨count, what, hasks, -, hserve⟩ | ⟨henough, hserve⟩
  · rw [hserve]
    refine ⟨[], Passed.nil rfl rfl, ?_⟩
    cases request <;> exact List.Forall₂.nil
  · rw [hserve]
    cases request with
    | byte what =>
      refine ⟨cursor.unread.take 1, passed_advance (henough _ _ rfl), ?_⟩
      simp only [Request.told, Request.given, map_told]
      exact tells_known _
    | take count what =>
      refine ⟨cursor.unread.take count, passed_advance (henough _ _ rfl), ?_⟩
      simp only [Request.told, Request.given, map_told]
      exact tells_known _
    | skip count what =>
      have hstretch := tells_unknown (cursor.unread.take count)
      rw [List.length_take_of_le (henough _ _ rfl)] at hstretch
      exact ⟨cursor.unread.take count, passed_advance (henough _ _ rfl), hstretch⟩
    | peek | setMask | rest => exact ⟨[], Passed.nil rfl rfl, List.Forall₂.nil⟩

/-- A run of requests moves over a stretch, and tells what it has read of it. -/
theorem passed_after (requests : List Request) :
    ∀ cursor : Cursor, ∃ stretch, cursor.Passed (cursor.after requests) stretch ∧
      List.Forall₂ Tells (cursor.told requests) stretch := by
  induction requests with
  | nil => exact fun cursor => ⟨[], Passed.nil rfl rfl, List.Forall₂.nil⟩
  | cons request requests ih =>
    intro cursor
    rcases passed_serve cursor request with ⟨front, hfront, htold⟩
    rcases ih (cursor.serve request).2 with ⟨back, hback, hothers⟩
    exact ⟨front ++ back, hfront.append hback, List.rel_append htold hothers⟩

/-! ## Over an index -/

/-- Over an index, no request is served from outside the buffer, and each is served as from a cursor. -/
theorem Request.follows_call (request : Request) : Follows request.call request.scan := by
  cases request with
  | byte what => exact Reader.follows_bind (Reader.follows_byte what) fun found => (Twin.pure [found]).follows
  | peek what => exact Reader.follows_bind (Reader.follows_peek what) fun found => (Twin.pure [found]).follows
  | take count what => exact Reader.follows_take count what
  | skip count what => exact Reader.follows_bind (Reader.follows_skip count what) fun _ => (Twin.pure []).follows
  | setMask mask => exact Reader.follows_bind (Reader.follows_setMask mask) fun _ => (Twin.pure []).follows
  | rest => exact Reader.follows_rest

/-! ## Runs -/

/-- The cursor is inside a buffer, and serves every request from the bytes of the buffer that are behind its
position. -/
structure Faithful (buffer : Bytes) (cursor : Cursor) : Prop where
  inside : cursor.position ≤ buffer.length
  remaining_eq : cursor.position + cursor.remaining = buffer.length
  serves : ∀ request, cursor.Serves (buffer.drop cursor.position) request

theorem Passed.faithful {buffer stretch : Bytes} {mask : UInt8} (h : (start buffer mask).Passed cursor stretch) :
    cursor.Faithful buffer ∧ buffer.take cursor.position = stretch := by
  have hbuffer : buffer = stretch ++ cursor.unread := h.unread_eq
  have hposition : cursor.position = stretch.length := h.position_eq.trans (Nat.zero_add _)
  have hahead : buffer.drop cursor.position = cursor.unread := by rw [hbuffer, hposition, List.drop_left]
  have hremaining : cursor.position + cursor.remaining = buffer.length := by
    rw [hbuffer, hposition, List.length_append, remaining]
  refine ⟨⟨by omega, hremaining, ?_⟩, ?_⟩
  · rw [hahead]
    exact cursor.serves
  · rw [hbuffer, hposition, List.take_left]

/-- After any requests from the front of any buffer, the cursor is inside the buffer, and its position and what is
left are the whole.  Any further request is refused exactly when it asks for more bytes than are left, and changes
nothing then; else it is given the next bytes of the buffer through the mask that is in force, or all that is left
without one, and moves the cursor by as many bytes as it reads or passes over.  What the replies tell, each taken
back through its mask, is the front of the buffer up to the position, with gaps where bytes were passed over.  Over an
index, no request takes a byte or a stretch from outside its buffer, and each is served as from the cursor. -/
theorem serves_faithfully (buffer : Bytes) (mask : UInt8) (requests : List Request) :
    ((start buffer mask).after requests).Faithful buffer ∧
    List.Forall₂ Tells ((start buffer mask).told requests)
      (buffer.take ((start buffer mask).after requests).position) ∧
    ∀ request : Request, Follows request.call request.scan := by
  rcases passed_after requests (start buffer mask) with ⟨stretch, hstretch, htold⟩
  rcases hstretch.faithful with ⟨hfaithful, hfront⟩
  rw [hfront]
  exact ⟨hfaithful, htold, Request.follows_call⟩

/-- A request for too much is passed by; a byte is read under the mask and told without it; the gap is not told. -/
example : (start [0xFE, 3, 7] 0xFF).told
    [.take 9 "all", .byte "marker", .setMask 0, .peek "next", .skip 1 "gap", .take 1 "last"] =
      [some 0xFE, none, some 7] := rfl

end Cursor
end RecordBytes
