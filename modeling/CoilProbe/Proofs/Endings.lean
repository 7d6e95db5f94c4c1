import CoilProbe.Proofs.Connecting
import CoilProbe.Proofs.Printing
import CoilProbe.Proofs.Probes
import CoilProbe.Proofs.Reads

/-!
# How a probe ends

A probe whose output does not fail ends in one of three ways: it has no connection and says so, it
has read the coil and says which value it has, or its read has failed and it says nothing.
`probe_endings` says which of them it is, and that the exit status tells whether something was
written.
-/

namespace CoilProbe

/-- A failure with which a read over a connection can end. -/
def Failure.OfRead : Failure → Prop
  | .timedOut _ | .transport _ | .exception _ | .emptyResponse => True
  | .lookup _ _ | .noAddress _ | .connect _ _ | .notConnected | .output _ => False

/-- The lines that a probe may write. -/
def Settings.lines (s : Settings) : List String :=
  [coilText true, coilText false, s.noConnection]

theorem Settings.coilText_mem_lines (s : Settings) (value : Bool) : coilText value ∈ s.lines := by
  cases value <;> simp [lines]

theorem Settings.noConnection_mem_lines (s : Settings) : s.noConnection ∈ s.lines := by
  simp [lines]

theorem Outcome.line_mem_lines (s : Settings) (outcome : Outcome) : outcome.line s ∈ s.lines := by
  cases outcome with
  | value value => exact s.coilText_mem_lines value
  | notConnected => exact s.noConnection_mem_lines

/-- An answer without a coil is a failure of the read. -/
theorem Session.ofRead_of_coilOf {timeout : UInt64} {ans : Answer} {f : Failure}
    (h : coilOf timeout ans = .error f) : f.OfRead := by
  unfold coilOf at h
  split at h <;> cases h <;> trivial

theorem Session.ofRead_of_isOpen {s : Session} {a : UInt16} {f : Failure} (hopen : s.isOpen = true)
    (h : (s.read a).result = .error f) : f.OfRead := by
  obtain ⟨c, hheld⟩ := Session.isOpen_iff.1 hopen
  rw [read_of_held a hheld] at h
  exact ofRead_of_coilOf h

/-- A connection cannot be made if there are no addresses to try, in time or at all, or if no
attempt at one of them is accepted. -/
theorem Session.connect_error_iff (s : Session) :
    (∃ f, s.connect.result = .error f) ↔
      match s.names.resolve s.settings.host s.settings.timeout.toNat with
      | .late | .failed _ => True
      | .found ips => ∀ i < (targets s.settings ips).length,
          (s.roster.trial (targets s.settings ips) i).accepts = false := by
  have herror : (∃ f, s.connect.result = .error f) ↔ s.connect.result ≠ .ok () := by
    cases s.connect.result with
    | ok u => simp
    | error f => simp
  rw [herror]
  cases hres : s.names.resolve s.settings.host s.settings.timeout.toNat with
  | late => simp [connect_of_late hres]
  | failed fault => simp [connect_of_failed hres]
  | found ips =>
    rw [ne_eq, connect_ok_iff hres]
    simp

/-- A session that has made no connection has had no request taken. -/
theorem Session.requests_eq_nil {servers : List Server} {rs : List (Option (Nat × UInt16))}
    {s : Session} (h : Inv servers rs s) (hnone : s.connections = []) :
    ∀ taken ∈ s.requests, taken = [] := by
  have haccounts : s.accounts = s.roster := by
    have : s.release.past = [] := hnone
    rw [accounts, this]
    rfl
  intro taken htaken
  rw [requests, haccounts, Roster.requests] at htaken
  obtain ⟨slot, hslot, rfl⟩ := List.mem_map.1 htaken
  exact h.unrecorded slot ((List.mem_filter.1 hslot).1)

section Probe

variable {settings : Settings} {network : Network} {sink : Sink}

theorem requests_probe_of_refused {f : Failure}
    (h : (Session.start settings network).connect.result = .error f) :
    ∀ taken ∈ (probe settings network sink).requests, taken = [] := by
  have hinv := (Session.inv_start settings network).perform .connect
  have hsession : (probe settings network sink).session =
      (Session.start settings network).connect.session := by
    rw [probe_of_refused h]
  have hpast : (Session.start settings network).connect.session.connections = [] := by
    obtain ⟨log, places, hc⟩ := Session.connect_of_error h
    rw [hc]
    rfl
  rw [Probe.requests, hsession]
  exact Session.requests_eq_nil hinv hpast

/-- If no connection can be made and the output takes the line that says so, this is how the probe
ends. -/
theorem probe_refused_writes {f : Failure} (hsink : sink.Takes settings.lines)
    (h : (Session.start settings network).connect.result = .error f) :
    (probe settings network sink).result = .ok .notConnected ∧
      (probe settings network sink).sink.taken =
        sink.taken ++ Utf8.encode (settings.noConnection ++ "\n") := by
  have hfault := hsink settings.noConnection settings.noConnection_mem_lines
  rw [probe_of_refused h]
  exact ⟨by rw [Written.outcome, hfault], Sink.taken_writeLine hfault⟩

/-- If the coil is read and the output takes the line for it, this is how the probe ends. -/
theorem probe_read_writes {value : Bool} (hsink : sink.Takes settings.lines)
    (h : (Session.start settings network).connect.result = .ok ())
    (hread : ((Session.start settings network).connect.session.read settings.address).result =
      .ok value) :
    (probe settings network sink).result = .ok (.value value) ∧
      (probe settings network sink).sink.taken =
        sink.taken ++ Utf8.encode (coilText value ++ "\n") := by
  have hfault := hsink (coilText value) (settings.coilText_mem_lines value)
  rw [probe_of_read h hread]
  exact ⟨by rw [Written.outcome, hfault], Sink.taken_writeLine hfault⟩

/-- If the read fails, the probe fails as it does, and writes nothing. -/
theorem probe_unread_writes (sink : Sink) {f : Failure}
    (h : (Session.start settings network).connect.result = .ok ())
    (hread : ((Session.start settings network).connect.session.read settings.address).result =
      .error f) :
    f.OfRead ∧ (probe settings network sink).result = .error f ∧
      (probe settings network sink).sink.taken = sink.taken := by
  have hofRead := Session.ofRead_of_isOpen (Session.isOpen_of_connected h) hread
  rw [probe_of_unread h hread]
  exact ⟨hofRead, rfl, rfl⟩

/-- A probe that does not fail writes one of the lines, and one that fails has failed to read and
writes nothing. -/
theorem probe_writes_or_fails (network : Network) (hsink : sink.Takes settings.lines) :
    (∃ outcome, (probe settings network sink).result = .ok outcome ∧
      ∃ line ∈ settings.lines, (probe settings network sink).sink.taken =
        sink.taken ++ Utf8.encode (line ++ "\n")) ∨
    ∃ f, (probe settings network sink).result = .error f ∧ f.OfRead ∧
      (probe settings network sink).sink.taken = sink.taken := by
  rcases probe_tells settings network with ⟨outcome, htold⟩ | ⟨f, hconnected, hread, hfails⟩
  · obtain ⟨hresult, hafter⟩ := htold sink
    have hfault := hsink _ (outcome.line_mem_lines settings)
    refine .inl ⟨outcome, ?_, _, outcome.line_mem_lines settings, ?_⟩
    · rw [hresult, Written.outcome, hfault]
    · rw [hafter, Sink.taken_writeLine hfault]
  · obtain ⟨hresult, hafter⟩ := hfails sink
    have hofRead := Session.ofRead_of_isOpen (Session.isOpen_of_connected hconnected) hread
    exact .inr ⟨f, hresult, hofRead, by rw [hafter]⟩

/-- Two outputs that take the lines of a probe take the same from it, and it ends the same. -/
theorem probe_sinks {sink' : Sink} (network : Network) (hsink : sink.Takes settings.lines)
    (hsink' : sink'.Takes settings.lines) :
    (probe settings network sink).result = (probe settings network sink').result ∧
      ∃ written, (probe settings network sink).sink.taken = sink.taken ++ written ∧
        (probe settings network sink').sink.taken = sink'.taken ++ written := by
  rcases probe_tells settings network with ⟨outcome, htold⟩ | ⟨f, -, -, hfails⟩
  · obtain ⟨hresult, hafter⟩ := htold sink
    obtain ⟨hresult', hafter'⟩ := htold sink'
    have hfault := hsink _ (outcome.line_mem_lines settings)
    have hfault' := hsink' _ (outcome.line_mem_lines settings)
    refine ⟨?_, Utf8.encode (outcome.line settings ++ "\n"), ?_, ?_⟩
    · rw [hresult, hresult', Written.outcome, Written.outcome, hfault, hfault']
    · rw [hafter, Sink.taken_writeLine hfault]
    · rw [hafter', Sink.taken_writeLine hfault']
  · obtain ⟨hresult, hafter⟩ := hfails sink
    obtain ⟨hresult', hafter'⟩ := hfails sink'
    refine ⟨hresult.trans hresult'.symm, [], ?_, ?_⟩
    · rw [hafter, List.append_nil]
    · rw [hafter', List.append_nil]

/-- The exit status of a probe is 0 or 1, and tells whether one of the lines was written or
nothing. -/
theorem exitStatus_probe (network : Network) (hsink : sink.Takes settings.lines) :
    (exitStatus (probe settings network sink).result = 0 ↔
      ∃ line ∈ settings.lines, (probe settings network sink).sink.taken =
        sink.taken ++ Utf8.encode (line ++ "\n")) ∧
    (exitStatus (probe settings network sink).result = 1 ↔
      (probe settings network sink).sink.taken = sink.taken) := by
  rcases probe_writes_or_fails network hsink with
    ⟨outcome, hresult, line, hline, htaken⟩ | ⟨f, hresult, -, htaken⟩
  · rw [hresult]
    refine ⟨⟨fun _ => ⟨line, hline, htaken⟩, fun _ => rfl⟩, ⟨fun h => ?_, fun h => ?_⟩⟩
    · exact absurd (show (0 : UInt8) = 1 from h) (by decide)
    · rw [htaken] at h
      exact absurd (List.append_right_eq_self.1 h) (Utf8.encode_line_ne_nil line)
  · rw [hresult]
    refine ⟨⟨fun h => ?_, fun ⟨line, hline, h⟩ => ?_⟩, ⟨fun _ => htaken, fun _ => rfl⟩⟩
    · exact absurd (show (1 : UInt8) = 0 from h) (by decide)
    · rw [htaken] at h
      exact absurd (List.append_right_eq_self.1 h.symm) (Utf8.encode_line_ne_nil line)

end Probe

/-- A probe whose output takes its lines ends in one of three ways. If no connection can be made, be
it that there are no addresses or that none accepts, it says so in its line, and no request is
taken. If the coil is read, it writes the line for its value. If the read fails, it fails as the
read does, and writes nothing. So it fails as reads do only, and its exit status is 0 if it has
written one of its lines, and 1 if it has written nothing. -/
theorem probe_endings (settings : Settings) (network : Network) (sink : Sink)
    (hsink : sink.Takes settings.lines) :
    let s := Session.start settings network
    let p := probe settings network sink
    (match s.connect.result with
      | .error _ =>
        p.result = .ok .notConnected ∧
        p.sink.taken = sink.taken ++ Utf8.encode (settings.noConnection ++ "\n") ∧
        ∀ taken ∈ p.requests, taken = []
      | .ok () =>
        match (s.connect.session.read settings.address).result with
        | .ok value =>
          p.result = .ok (.value value) ∧
          p.sink.taken = sink.taken ++ Utf8.encode (coilText value ++ "\n")
        | .error f => f.OfRead ∧ p.result = .error f ∧ p.sink.taken = sink.taken) ∧
    ((∃ f, s.connect.result = .error f) ↔
      match network.names.resolve settings.host settings.timeout.toNat with
      | .late | .failed _ => True
      | .found ips => ∀ i < (Session.targets settings ips).length,
          (s.roster.trial (Session.targets settings ips) i).accepts = false) ∧
    (∀ f, p.result = .error f → f.OfRead) ∧
    (exitStatus p.result = 0 ↔
      ∃ line ∈ settings.lines, p.sink.taken = sink.taken ++ Utf8.encode (line ++ "\n")) ∧
    (exitStatus p.result = 1 ↔ p.sink.taken = sink.taken) := by
  intro s p
  refine ⟨?_, s.connect_error_iff, fun f hf => ?_, exitStatus_probe network hsink⟩
  · cases hc : s.connect.result with
    | error f =>
      obtain ⟨hresult, htaken⟩ := probe_refused_writes hsink hc
      exact ⟨hresult, htaken, requests_probe_of_refused hc⟩
    | ok u =>
      cases hr : (s.connect.session.read settings.address).result with
      | ok value => exact probe_read_writes hsink hc hr
      | error f => exact probe_unread_writes sink hc hr
  · rcases probe_writes_or_fails network hsink with ⟨outcome, hresult, -⟩ | ⟨g, hresult, hread, -⟩
    · have hcontra : (.ok outcome : Except Failure Outcome) = .error f := hresult.symm.trans hf
      cases hcontra
    · have hsame : (.error g : Except Failure Outcome) = .error f := hresult.symm.trans hf
      cases hsame
      exact hread

/-- Three servers and an output without a limit: the first server refuses, the second one sends its
coil in two pieces, the third one answers by an exception. -/
theorem probe_endings_each :
    let network : Network :=
      { servers := [⟨.v4 ⟨10, 0, 0, 1⟩ 502, .refuse (.os 113)⟩, ⟨.v4 ⟨10, 0, 0, 2⟩ 502,
          .accept { replies := [.send [[0, 0, 0, 0, 0, 4, 1], [1, 1, 1]] none] }⟩,
        ⟨.v4 ⟨10, 0, 0, 3⟩ 502, .accept { replies := [.send [[0, 0, 0, 0, 0, 3, 1, 0x81, 2]] none] }⟩] }
    let settings (host : String) : Settings := { host }
    let p (host : String) := probe (settings host) network {}
    (∀ host, Sink.Takes (settings host).lines {}) ∧
      ((p "10.0.0.1").result = .ok .notConnected ∧
        (p "10.0.0.1").sink.taken = Utf8.encode "No connct to 10.0.0.1:502\n" ∧
        ∀ taken ∈ (p "10.0.0.1").requests, taken = []) ∧
      ((p "10.0.0.2").result = .ok (.value true) ∧
        (p "10.0.0.2").sink.taken = Utf8.encode "True\n") ∧
      (p "10.0.0.3").result = .error (.exception ⟨2⟩) ∧ (p "10.0.0.3").sink.taken = [] ∧
      exitStatus (p "10.0.0.3").result = 1 := by
  intro network settings p
  have hsink (host : String) : Sink.Takes (settings host).lines {} :=
    Sink.takes_of_unlimited ⟨rfl, by decide⟩ (settings host).lines
  have hrefused : (Session.start (settings "10.0.0.1") network).connect.result =
      .error (.connect (.v4 ⟨10, 0, 0, 1⟩ 502) (.os 113)) := by
    decide
  have hopen : (Session.start (settings "10.0.0.2") network).connect.result = .ok () := by decide
  have hopen' : (Session.start (settings "10.0.0.3") network).connect.result = .ok () := by decide
  have hread : ((Session.start (settings "10.0.0.2") network).connect.session.read
      (settings "10.0.0.2").address).result = .ok true := by
    decide +kernel
  have hread' : ((Session.start (settings "10.0.0.3") network).connect.session.read
      (settings "10.0.0.3").address).result = .error (.exception ⟨2⟩) := by
    decide +kernel
  obtain ⟨hends, -⟩ := probe_endings (settings "10.0.0.1") network {} (hsink _)
  rw [hrefused] at hends
  obtain ⟨hresult, htaken, hrequests⟩ := hends
  have hline : (settings "10.0.0.1").noConnection ++ "\n" = "No connct to 10.0.0.1:502\n" := by
    decide
  rw [hline] at htaken
  obtain ⟨hends', -⟩ := probe_endings (settings "10.0.0.2") network {} (hsink _)
  simp only [hopen, hread] at hends'
  obtain ⟨hfails, -, -, -, hstatus⟩ := probe_endings (settings "10.0.0.3") network {} (hsink _)
  simp only [hopen', hread'] at hfails
  obtain ⟨-, hresult', htaken'⟩ := hfails
  exact ⟨hsink, ⟨hresult, htaken, hrequests⟩, hends', hresult', htaken', hstatus.2 htaken'⟩

end CoilProbe
