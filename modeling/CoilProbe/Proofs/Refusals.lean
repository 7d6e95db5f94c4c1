import CoilProbe.Proofs.Records
import CoilProbe.Proofs.Views

/-!
# Connections that cannot be made

A session that fails to make a connection goes on as if it had not tried:
`refused_connect_leaves_no_trace`. What has become of the servers matters to later attempts only,
and the connection that is held, with all that is on its way over it, is not touched.
-/

namespace CoilProbe.Session

variable {s : Session} {post : List Step}

/-- The connections that a session has made are the same whether or not it failed to make one more,
as long as it does not try again. -/
theorem connections_after_refused {f : Failure} (h : s.connect.result = .error f)
    (hpost : Step.connect ∉ post) :
    (s.connect.session.after post).connections = (s.after post).connections := by
  obtain ⟨hview, hpast⟩ := of_refused h
  obtain ⟨-, hturns, hafter⟩ := agree_of_view hview hpost
  have hheld := (view_eq_iff.1 hafter).2
  have hpasts : (s.connect.session.after post).past = (s.after post).past := by
    rw [past_after _ hpost, past_after _ hpost, hturns, hpast]
  simp only [connections, release, hheld, hpasts]

/-- A step that fails to make a connection leaves no trace. Take it out of a session that makes no
later attempt: all other steps end as before, with the same connection or none in hand and the same
events in the journal, and the servers take the same requests. -/
theorem refused_connect_leaves_no_trace (settings : Settings) (network : Network)
    (pre post : List Step) (f : Failure)
    (hrefused : ((start settings network).after pre).connect.result = .error f)
    (hpost : Step.connect ∉ post) :
    ((start settings network).reports (pre ++ .connect :: post)).eraseIdx pre.length =
        (start settings network).reports (pre ++ post) ∧
      ((start settings network).after (pre ++ .connect :: post)).requests =
        ((start settings network).after (pre ++ post)).requests := by
  have hsession : (((start settings network).after pre).perform .connect).session =
      ((start settings network).after pre).connect.session := rfl
  obtain ⟨hview, -⟩ := of_refused hrefused
  obtain ⟨hreports, -, -⟩ := agree_of_view hview hpost
  constructor
  · have hlength : pre.length = ((start settings network).reports pre).length :=
      (length_reports _ pre).symm
    rw [reports_append, reports_append, reports_cons, hsession, hreports, hlength,
      List.eraseIdx_append_of_length_le (Nat.le_refl _), Nat.sub_self, List.eraseIdx_cons_zero]
  · refine requests_congr (inv_after settings network _) (inv_after settings network _) ?_
    rw [after_append, after_append, after_cons, hsession]
    exact connections_after_refused hrefused hpost

/-- A session that tries for a second connection in the middle of a reply, with a request on its way
that the server has not taken: nobody listens any more, and the reads that follow are those of the
session that does not try. -/
theorem refused_connect_leaves_no_trace_mid_reply :
    let settings : Settings := { host := "10.0.0.1" }
    let service : Service :=
      { replies := [.send [[0, 0, 0, 0, 0, 4, 1, 1, 1], [1, 7], [0, 0, 0, 0, 0, 3, 1, 0x81, 2], [9]]
          (some .close)] }
    let network : Network := { servers := [⟨.v4 ⟨10, 0, 0, 1⟩ 502, .accept service⟩] }
    let pre : List Step := [.connect, .read 1, .read 2]
    let post : List Step := [.isOpen, .read 3, .read 4]
    ((Session.start settings network).after pre).connect.result =
        .error (.connect (.v4 ⟨10, 0, 0, 1⟩ 502) .connectionRefused) ∧
      Step.connect ∉ post ∧
      ((start settings network).reports (pre ++ .connect :: post)).eraseIdx 3 =
        (start settings network).reports (pre ++ post) ∧
      ((start settings network).after (pre ++ .connect :: post)).requests =
        ((start settings network).after (pre ++ post)).requests := by
  intro settings service network pre post
  have hrefused : ((start settings network).after pre).connect.result =
      .error (.connect (.v4 ⟨10, 0, 0, 1⟩ 502) .connectionRefused) := by
    decide +kernel
  have hpost : Step.connect ∉ post := by decide
  exact ⟨hrefused, hpost,
    refused_connect_leaves_no_trace settings network pre post _ hrefused hpost⟩

end CoilProbe.Session
