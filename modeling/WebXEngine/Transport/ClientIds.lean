import WebXEngine.Transport.ClientConnector

/-! # The identifiers of clients as texts

A client names itself by the text of its identifier, which is read by a function for longer numbers
that stops at the first character it does not know.

* **`ClientIds.Unambiguous`** — what reading a text should do.
* **`clientIds_unambiguous_iff`** — it does so exactly for the numerals of 32 bits. -/

namespace WebXEngine

namespace ClientIds

/-- A text is read as the identifier that it is a numeral of, and refused when it is none; no other
client is disconnected by it. -/
structure Unambiguous (text : List UInt8) : Prop where
  exact : ∀ id, HexUtils.toUint32 text = some (.ok id) → IsHexNumeral text id.toNat
  refused : (∀ id : UInt32, ¬ IsHexNumeral text id.toNat) →
    ∃ message, HexUtils.toUint32 text = some (.error message)
  named : ∀ (state : ConnectorState) sessionId client,
    client ∈ state.registryState.registry.clients →
    client ∉ (state.disconnectClient sessionId text).2.registryState.registry.clients →
      IsHexNumeral text client.id.toNat

/-- The clients that a request removes have the identifier that is read. -/
theorem toUint32_of_notMem {state : ConnectorState} {sessionId text : List UInt8} {client : WebXClient}
    (hbefore : client ∈ state.registryState.registry.clients)
    (hafter : client ∉ (state.disconnectClient sessionId text).2.registryState.registry.clients) :
    HexUtils.toUint32 text = some (.ok client.id) := by
  -- only the client with the identifier is removed
  have hremoved (id : UInt32)
      (h : client ∉ (state.onClientDisconnect id).2.registryState.registry.clients) :
      client.id = id := by
    by_contra hne
    refine h ?_
    rw [ConnectorState.onClientDisconnect]
    split_ifs
    · change client ∈ (state.registryState.registry.removeClient id).2.clients
      cases hclient : state.registryState.registry.getClientById id with
      | none =>
          rw [WebXClientRegistry.removeClient_of_none _ hclient]
          exact hbefore
      | some c =>
          rw [WebXClientRegistry.removeClient_of_some _ hclient]
          exact (List.mem_eraseP_of_neg (by simpa using hne)).mpr hbefore
    · exact hbefore
  rw [ConnectorState.disconnectClient] at hafter
  split_ifs at hafter
  · cases hread : HexUtils.toUint32 text with
    | none =>
        rw [hread] at hafter
        exact absurd hbefore hafter
    | some result =>
        rw [hread] at hafter
        cases result with
        | error message => exact absurd hbefore hafter
        | ok id =>
            dsimp only at hafter
            have hid : client.id = id := by
              refine hremoved id ?_
              cases hresult : (state.onClientDisconnect id).1 <;> rw [hresult] at hafter <;> exact hafter
            rw [hid]
  · exact absurd hbefore hafter

/-- The numeral of an identifier is read as it. -/
theorem toUint32_of_isHexNumeral {text : List UInt8} {id : UInt32}
    (h : IsHexNumeral text id.toNat) : HexUtils.toUint32 text = some (.ok id) := by
  obtain ⟨⟨negative, magnitude, length⟩, hscan, hvalue⟩ := h.scanNumeral
  have hlt : id.toNat < 2 ^ 32 := id.toNat_lt
  dsimp only at hvalue
  have hmagnitude : magnitude = id.toNat := by
    split_ifs at hvalue <;> omega
  subst hmagnitude
  have hnegative : negative = true → id.toNat = 0 := by
    rintro rfl
    rw [if_pos rfl] at hvalue
    omega
  rw [HexUtils.toUint32, stoul, hscan, Option.bind_some, if_pos (hlt.trans (by decide))]
  cases negative with
  | false => simp
  | true =>
      -- a negative numeral is only that of zero
      have hid : id = 0 := UInt32.toNat_inj.mp (hnegative rfl)
      subst hid
      have hzero : (-UInt64.ofNat (UInt32.toNat 0)).toUInt32 = 0 := by decide
      rw [Option.map_some, if_pos rfl, hzero]

/-- A text is never refused: what cannot be read makes an exception leave the function. -/
theorem toUint32_ne_error (text : List UInt8) (message : String) :
    HexUtils.toUint32 text ≠ some (.error message) := by
  rw [HexUtils.toUint32]
  cases stoul text <;> simp

end ClientIds

/-- **The text of each identifier is read as it, and a text is unambiguous exactly when it is, as a
whole, the numeral of a number of 32 bits.** -/
theorem clientIds_unambiguous_iff (text : List UInt8) :
    (∀ id : UInt32, HexUtils.toUint32 (hexNumeral 8 id.toNat) = some (.ok id)) ∧
      (ClientIds.Unambiguous text ↔ ∃ id : UInt32, IsHexNumeral text id.toNat) := by
  refine ⟨HexUtils.toUint32_hexNumeral, fun h => ?_, ?_⟩
  · by_contra hnone
    push Not at hnone
    obtain ⟨message, hmessage⟩ := h.refused hnone
    exact ClientIds.toUint32_ne_error text message hmessage
  · rintro ⟨id, hid⟩
    have hread := ClientIds.toUint32_of_isHexNumeral hid
    refine ⟨fun other hother => ?_, fun hnone => absurd hid (hnone id), ?_⟩
    · rw [hread] at hother
      cases hother
      exact hid
    · intro state sessionId client hbefore hafter
      have hclient := ClientIds.toUint32_of_notMem hbefore hafter
      rw [hread] at hclient
      cases hclient
      exact hid

namespace ClientIds

/-- A text with nine digits is read as the identifier 1. -/
theorem not_unambiguous : ¬ ∀ text, Unambiguous text := by
  intro h
  have hread : HexUtils.toUint32 (ascii "100000001") = some (.ok 1) := by decide +kernel
  obtain ⟨numeral, hscan, hvalue⟩ := ((h _).exact 1 hread).scanNumeral
  have hnumeral : scanNumeral 16 (ascii "100000001") = some ⟨false, 0x100000001, 9⟩ := by
    decide +kernel
  rw [hnumeral] at hscan
  cases hscan
  exact absurd hvalue (by decide)

end ClientIds

end WebXEngine
