import CoilProbe.Insist
import CoilProbe.Proofs.Waiting

/-!
# What a frame must be to say something

Decoding is inverted: from what a client makes of the bytes it took, the bytes are known as far as
they matter. `StartsWithFrame` describes a complete frame at the head of some bytes without scanning
them, and `exchange_coils`, `exchange_exception` and `exchange_of_mismatch` tie it to the answers.
-/

namespace CoilProbe

/-! ## Response bodies -/

/-- A reading that, if it succeeds, comes to something with a property. -/
def Decoding.Yields {α : Type} (P : α → Prop) (x : Decoding α) : Prop := ∀ a, x = .ok a → P a

namespace Decoding

variable {α β : Type} {P : β → Prop}

theorem yields_ok {b : β} (h : P b) : Yields P (.ok b : Decoding β) := by
  rintro _ ⟨⟩
  exact h

theorem yields_error {fault : BodyFault} : Yields P (.error fault : Decoding β) := by
  rintro _ ⟨⟩

theorem yields_bind {x : Decoding α} {f : α → Decoding β} (h : ∀ a, Yields P (f a)) :
    Yields P (x >>= f) := by
  intro b hb
  obtain ⟨a, -, ha⟩ := bind_eq_ok.1 hb
  exact h a b ha

end Decoding

namespace Response

/-- A response that holds no coils. -/
def NotCoils (r : Response × Bytes) : Prop := ∀ values, r.1 ≠ .readCoils values

open Decoding in
/-- Coils come only from bodies of the function that reads coils. -/
theorem yields_ofFields {function : UInt8} (h : function ≠ 1) (body : Bytes) :
    Yields NotCoils (ofFields function body) := by
  unfold ofFields
  split
  · rename_i hf
    exact absurd (UInt8.toNat.inj hf) h
  all_goals
    repeat' first
      | exact yields_error
      | exact yields_ok nofun
      | refine yields_bind fun _ => ?_
      | split

/-- A row of coils is a byte count and as many bytes. -/
theorem coilRow_ok {body rest : Bytes} {values : List Bool}
    (h : coilRow body = .ok (values, rest)) :
    ∃ count packed, body = count :: packed ++ rest ∧ packed.length = count.toNat ∧
      values = packed.flatMap coilsOfByte := by
  obtain ⟨-, -, h⟩ := bind_eq_ok.1 h
  obtain ⟨⟨count, later⟩, hcount, h⟩ := bind_eq_ok.1 h
  obtain ⟨⟨packed, rest'⟩, hpacked, h⟩ := bind_eq_ok.1 h
  cases h
  rw [Field.bytes] at hpacked
  split at hpacked
  · cases hpacked
  · rename_i hlen
    cases hpacked
    cases body with
    | nil => cases hcount
    | cons b body =>
      cases hcount
      refine ⟨count, later.take count.toNat, ?_, ?_, rfl⟩
      · rw [List.cons_append, List.take_append_drop]
      · rw [List.length_take]
        omega

end Response

/-- A body that says coils is the function code, a byte count and as many bytes of coils. -/
theorem Reply.decode_readCoils {body : Bytes} {values : List Bool}
    (h : Reply.decode body = .ok (.answer (.readCoils values))) :
    ∃ count packed, body = 1 :: count :: packed ∧ packed.length = count.toNat ∧
      values = packed.flatMap coilsOfByte := by
  cases body with
  | nil => cases h
  | cons function body =>
    rw [Reply.decode] at h
    split at h
    · obtain ⟨_, -, h⟩ := bind_eq_ok.1 h
      cases h
    · obtain ⟨⟨response, rest⟩, hfields, h⟩ := bind_eq_ok.1 h
      simp only at h
      split at h
      · rename_i hrest
        cases h
        by_cases hf : function = 1
        · subst hf
          obtain ⟨⟨coils, rest'⟩, hrow, h⟩ := bind_eq_ok.1 hfields
          cases h
          obtain ⟨count, packed, hbody, hlen, hvalues⟩ := Response.coilRow_ok hrow
          rw [hrest, List.append_nil] at hbody
          exact ⟨count, packed, by rw [hbody], hlen, hvalues⟩
        · exact absurd rfl (Response.yields_ofFields hf body _ hfields values)
      · cases h

/-- A body that refuses to read coils is the function code with the high bit set and the code of
the exception, and perhaps more. -/
theorem Reply.decode_refusal {body : Bytes} {e : ExceptionCode}
    (h : Reply.decode body = .ok (.refusal ⟨.readCoils, e⟩)) :
    ∃ more, body = 0x81 :: e.number :: more := by
  cases body with
  | nil => cases h
  | cons function body =>
    rw [Reply.decode] at h
    split at h
    · rename_i hhigh
      obtain ⟨⟨code, more⟩, hcode, h⟩ := bind_eq_ok.1 h
      cases body with
      | nil => cases hcode
      | cons b body =>
        cases hcode
        injection h with h
        injection h with h
        injection h with hf he
        have hone : (UInt8.ofNat (function.toNat - 0x80)).toNat = 1 :=
          congrArg (fun f : FunctionCode => f.number.toNat) hf
        rw [UInt8.toNat_ofNat'] at hone
        have hlt := function.toNat_lt
        have hnat : function = 0x81 := UInt8.toNat.inj (by
          show function.toNat = 129
          omega)
        exact ⟨more, by rw [hnat, ← he]⟩
    · obtain ⟨⟨response, rest⟩, -, h⟩ := bind_eq_ok.1 h
      simp only at h
      split at h
      · cases h
      · cases h

/-! ## Frames -/

/-- Some bytes begin with a complete frame, given by what stands in it: the transaction id, the
protocol id, a length that counts the unit id and the body, the unit id, and the body. -/
def StartsWithFrame (bytes : Bytes) (transaction protocol : UInt16) (unit : UInt8) (body : Bytes) :
    Prop :=
  ∃ (length : UInt16) (rest : Bytes), length.toNat = body.length + 1 ∧
    bytes = wordBytes transaction ++ wordBytes protocol ++ wordBytes length ++ unit :: body ++ rest

theorem StartsWithFrame.append {bytes : Bytes} {t p : UInt16} {u : UInt8} {body : Bytes}
    (h : StartsWithFrame bytes t p u body) (more : Bytes) :
    StartsWithFrame (bytes ++ more) t p u body := by
  obtain ⟨length, rest, hlen, rfl⟩ := h
  exact ⟨length, rest ++ more, hlen, by simp⟩

/-- A complete frame is decoded, whatever follows it. -/
theorem StartsWithFrame.scan {bytes : Bytes} {t p : UInt16} {u : UInt8} {body : Bytes}
    (h : StartsWithFrame bytes t p u body) : scan bytes = Frame.decode t p u body := by
  obtain ⟨length, rest, hlen, rfl⟩ := h
  have hbytes : wordBytes t ++ wordBytes p ++ wordBytes length ++ u :: body ++ rest =
      highByte t :: lowByte t :: highByte p :: lowByte p :: highByte length :: lowByte length ::
        u :: (body ++ rest) := by
    simp [wordBytes]
  rw [hbytes]
  simp only [CoilProbe.scan, word_wordBytes, hlen]
  rw [if_neg (by omega), if_neg (by rw [List.length_append]; omega)]
  simp

/-- A whole frame that makes sense is of protocol zero and says what its body says. -/
theorem Frame.decode_complete {t p : UInt16} {u : UInt8} {body : Bytes} {f : Frame}
    (h : Frame.decode t p u body = .complete f) :
    p = 0 ∧ f.header = ⟨t, u⟩ ∧ Reply.decode body = .ok f.reply := by
  rw [Frame.decode] at h
  split at h
  · cases h
  · rename_i hp
    split at h
    · rename_i reply hreply
      cases h
      exact ⟨by simpa using hp, rfl, hreply⟩
    · cases h

theorem Frame.decode_ne_incomplete (t p : UInt16) (u : UInt8) (body : Bytes) :
    Frame.decode t p u body ≠ .incomplete := by
  rw [Frame.decode]
  split
  · nofun
  · split <;> nofun

/-- What is scanned as a frame begins with one. -/
theorem startsWithFrame_of_scan {bytes : Bytes} {f : Frame} (h : scan bytes = .complete f) :
    ∃ body, StartsWithFrame bytes f.header.transaction 0 f.header.unit body ∧
      Reply.decode body = .ok f.reply := by
  unfold scan at h
  split at h
  · rename_i t1 t0 p1 p0 l1 l0 unit rest
    simp only at h
    split at h
    · cases h
    · rename_i hzero
      split at h
      · cases h
      · rename_i hshort
        obtain ⟨hp, hheader, hreply⟩ := Frame.decode_complete h
        refine ⟨rest.take ((word l1 l0).toNat - 1), ⟨word l1 l0,
          rest.drop ((word l1 l0).toNat - 1), ?_, ?_⟩, hreply⟩
        · rw [List.length_take]
          omega
        · rw [hheader, ← hp]
          simp
  · cases h

/-! ## Answers -/

/-- A frame that says coils to a request carries its header and coils. -/
theorem Frame.answer_coils {sent : Header} {f : Frame} {values : List Bool}
    (h : f.answer sent = .coils values) :
    f.header = sent ∧ f.reply = .answer (.readCoils values) := by
  rw [Frame.answer] at h
  split at h
  · cases h
  · rename_i hheader
    split at h
    · rename_i hreply
      cases h
      exact ⟨by simpa using hheader, hreply⟩
    · cases h
    · split at h <;> cases h

/-- A frame that refuses a request carries its header and a refusal to read coils. -/
theorem Frame.answer_exception {sent : Header} {f : Frame} {e : ExceptionCode}
    (h : f.answer sent = .exception e) :
    f.header = sent ∧ f.reply = .refusal ⟨.readCoils, e⟩ := by
  rw [Frame.answer] at h
  split at h
  · cases h
  · rename_i hheader
    split at h
    · cases h
    · cases h
    · rename_i refusal hreply
      split at h
      · rename_i hfunction
        cases h
        exact ⟨by simpa using hheader, by rw [hreply, ← hfunction]⟩
      · cases h

theorem Frame.answer_of_ne {sent : Header} {f : Frame} (h : f.header ≠ sent) :
    ∃ fault, f.answer sent = .fault fault := by
  rw [Frame.answer, if_pos h]
  exact ⟨_, rfl⟩

namespace Link

variable {a : UInt16} {l : Link}

/-- The bytes taken in an exchange are the next ones of the stream. -/
theorem arrived_prefix (a : UInt16) (l : Link) :
    l.peer.arrived <+: (l.exchange a).taken ++ (l.exchange a).link.peer.arrived := by
  rcases l.exchange_cases a with ⟨hex, -⟩ | ⟨peer, hex, rfl, -⟩ | ⟨peer, hex, hpeer, -⟩
  · rw [hex]
    exact List.prefix_rfl
  · rw [hex]
    exact List.prefix_rfl
  · have hsame : peer.arrived = l.peer.arrived := by rw [hpeer]
    rw [hex, ← hsame, ← List.nil_append peer.arrived]
    exact receive_prefix

/-- An exchange that yields more than a fault or silence has taken the frame that says so. -/
theorem exchange_of_frame (h : ∀ fault, (l.exchange a).answer ≠ .fault fault)
    (hs : (l.exchange a).answer ≠ .silence) :
    ∃ (f : Frame) (body : Bytes), (l.exchange a).answer = f.answer l.header ∧
      StartsWithFrame (l.exchange a).taken f.header.transaction 0 f.header.unit body ∧
      Reply.decode body = .ok f.reply := by
  rcases l.exchange_cases a with ⟨hex, -⟩ | ⟨peer, hex, -, -⟩ | ⟨peer, hex, -, -⟩
  · exact absurd (by rw [hex]) (h (.io .brokenPipe))
  · exact absurd (by rw [hex]) (h (.io .leftOver))
  · have htells : (receive [] l.intake peer).Tells := receive_scan
    rw [hex] at h hs ⊢
    simp only [Receipt.Tells] at htells h hs ⊢
    cases harr : (receive [] l.intake peer).arrival with
    | frame f =>
      rw [harr] at htells
      obtain ⟨body, hstart, hreply⟩ := startsWithFrame_of_scan htells
      exact ⟨f, body, rfl, hstart, hreply⟩
    | malformed fault => exact absurd (by rw [harr]; rfl) (h (.frame fault))
    | ended => exact absurd (by rw [harr]; rfl) (h (.io .leftOver))
    | cutOff => exact absurd (by rw [harr]; rfl) (h .bytesRemaining)
    | reset => exact absurd (by rw [harr]; rfl) (h (.io .connectionReset))
    | silence => exact absurd (by rw [harr]; rfl) hs

/-- An exchange that yields coils has taken a frame of the request's transaction and unit that says
them. -/
theorem exchange_coils {values : List Bool} (h : (l.exchange a).answer = .coils values) :
    ∃ count packed, StartsWithFrame (l.exchange a).taken l.next 0 l.unit (1 :: count :: packed) ∧
      packed.length = count.toNat ∧ values = packed.flatMap coilsOfByte := by
  obtain ⟨f, body, hans, hstart, hreply⟩ :=
    exchange_of_frame (a := a) (l := l) (by rw [h]; nofun) (by rw [h]; nofun)
  obtain ⟨hheader, hcoils⟩ := Frame.answer_coils (hans.symm.trans h)
  rw [hcoils] at hreply
  obtain ⟨count, packed, rfl, hlen, hvalues⟩ := Reply.decode_readCoils hreply
  rw [hheader] at hstart
  exact ⟨count, packed, hstart, hlen, hvalues⟩

/-- An exchange that yields an exception has taken a frame of the request's transaction and unit
that says it. -/
theorem exchange_exception {e : ExceptionCode} (h : (l.exchange a).answer = .exception e) :
    ∃ more, StartsWithFrame (l.exchange a).taken l.next 0 l.unit (0x81 :: e.number :: more) := by
  obtain ⟨f, body, hans, hstart, hreply⟩ :=
    exchange_of_frame (a := a) (l := l) (by rw [h]; nofun) (by rw [h]; nofun)
  obtain ⟨hheader, hrefusal⟩ := Frame.answer_exception (hans.symm.trans h)
  rw [hrefusal] at hreply
  obtain ⟨more, rfl⟩ := Reply.decode_refusal hreply
  rw [hheader] at hstart
  exact ⟨more, hstart⟩

/-- If the next frame of the stream is of another transaction or unit, the exchange is a fault. -/
theorem exchange_of_mismatch {t p : UInt16} {u : UInt8} {body : Bytes}
    (h : StartsWithFrame ((l.exchange a).taken ++ (l.exchange a).link.peer.arrived) t p u body)
    (hne : t ≠ l.next ∨ u ≠ l.unit) : ∃ fault, (l.exchange a).answer = .fault fault := by
  rcases l.exchange_cases a with ⟨hex, -⟩ | ⟨peer, hex, -, -⟩ | ⟨peer, hex, -, -⟩
  · exact ⟨_, by rw [hex]⟩
  · exact ⟨_, by rw [hex]⟩
  · have htells : (receive [] l.intake peer).Tells := receive_scan
    rw [hex] at h ⊢
    simp only [Receipt.Tells] at htells h ⊢
    -- nothing is left to take unless the wait ended with the first frame
    have hrest : (receive [] l.intake peer).peer.arrived = [] →
        scan (receive [] l.intake peer).taken ≠ .incomplete := by
      intro he
      rw [he, List.append_nil] at h
      rw [h.scan]
      exact Frame.decode_ne_incomplete t p u body
    cases harr : (receive [] l.intake peer).arrival with
    | frame f =>
      rw [harr] at htells
      obtain ⟨body', hstart, -⟩ := startsWithFrame_of_scan htells
      have hwhole := (hstart.append (receive [] l.intake peer).peer.arrived).scan
      rw [← hstart.scan, htells, h.scan] at hwhole
      refine Frame.answer_of_ne fun hheader => ?_
      obtain ⟨-, hf, -⟩ := Frame.decode_complete hwhole
      rw [hheader, header] at hf
      injection hf with ht hu
      exact hne.elim (fun h => h ht.symm) fun h => h hu.symm
    | malformed fault => exact ⟨_, rfl⟩
    | ended => rw [harr] at htells; exact absurd htells.1 (hrest htells.2)
    | cutOff => exact ⟨_, rfl⟩
    | reset => exact ⟨_, rfl⟩
    | silence => rw [harr] at htells; exact absurd htells.1 (hrest htells.2)

end Link

end CoilProbe
