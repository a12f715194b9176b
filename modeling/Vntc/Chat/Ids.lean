import Mathlib.Data.List.Basic

/-!
# Ids of halls, direct chats and rooms

The id of a hall has the server and the network, and that of a direct chat the two addresses, each
in a normal form, so that devices that write them differently get the same id.
-/

namespace Vntc

namespace Chat

/-- What the platform does with text. -/
structure Platform where
  trim : String → String
  toLowerCase : String → String
  /-- The order of `List.sort`. -/
  le : String → String → Bool
  /-- `InternetAddress.tryParse`, with the `address` of the result. -/
  tryParse : String → Option String

/-- The parts before and after the last `c`. -/
def splitLast (c : Char) (cs : List Char) : Option (List Char × List Char) :=
  match cs.reverse.dropWhile (· != c) with
  | [] => none
  | _ :: before => some (before.reverse, (cs.reverse.takeWhile (· != c)).reverse)

/-- The rest after the first `"://"`, if it is not at the start. -/
def afterScheme : List Char → List Char → Option (List Char)
  | _, [] => none
  | before, c :: cs =>
    if "://".toList.isPrefixOf (c :: cs) then
      if before.isEmpty then none else some (cs.drop 2)
    else afterScheme (c :: before) cs

namespace Platform

variable (d : Platform)

/-- `_chatConnectServerBody`. -/
def chatConnectServerBody (connectServer : String) : String :=
  let normalized := d.trim connectServer
  if normalized = "" then ""
  else
    let body :=
      if "txt:".toList.isPrefixOf (d.toLowerCase normalized).toList then normalized.toList.drop 4
      else (afterScheme [] normalized.toList).getD normalized.toList
    d.trim (String.ofList (body.reverse.dropWhile (· == '/')).reverse)

def normalizeChatConnectServer (connectServer : String) : String :=
  let normalized := d.chatConnectServerBody connectServer
  if normalized = "" then "unknown" else d.toLowerCase normalized

/-- `buildHallId` without a netmask, so the network is only trimmed and in lower case. -/
def buildHallId (connectServer virtualNetwork : String) : String :=
  "hall:" ++ d.normalizeChatConnectServer connectServer ++ "|" ++
    d.toLowerCase (d.trim virtualNetwork)

def normalizeChatHallId (hallId : String) : String :=
  let trimmed := d.trim hallId
  if "hall:".toList.isPrefixOf trimmed.toList then
    match splitLast '|' (trimmed.toList.drop 5) with
    | some (server, network) =>
      if server.isEmpty || network.isEmpty then trimmed
      else d.buildHallId (String.ofList server) (String.ofList network)
    | none => trimmed
  else trimmed

def normalizeChatVirtualIp (virtualIp : String) : String :=
  let normalized := (d.toLowerCase (d.trim virtualIp)).toList
  if 2 < normalized.length ∧ normalized.head? = some '[' ∧ normalized.getLast? = some ']' then
    String.ofList normalized.tail.dropLast
  else String.ofList normalized

def buildDirectConversationId (hallId firstVirtualIp secondVirtualIp : String) : String :=
  let first := d.normalizeChatVirtualIp firstVirtualIp
  let second := d.normalizeChatVirtualIp secondVirtualIp
  let ips := if d.le first second then first ++ "|" ++ second else second ++ "|" ++ first
  "dm:" ++ d.normalizeChatHallId hallId ++ ":" ++ ips

def buildRoomId (hallId creatorVirtualIp roomToken : String) : String :=
  "room:" ++ d.normalizeChatHallId hallId ++ ":" ++ creatorVirtualIp ++ ":" ++ roomToken

/-- The room of another hall, if the id has the form of one: `build` makes an id of the creator and
the token. -/
def roomIdFor (build : String → String → String) (roomId : Option String) : Option String :=
  let value := (roomId.map d.trim).getD ""
  if value = "" then none
  else if "room:".toList.isPrefixOf value.toList then
    match splitLast ':' value.toList with
    | some (front, token) =>
      if front.length ≤ 5 then some value
      else
        match splitLast ':' front with
        | some (hall, creator) =>
          if hall.length ≤ 5 ∨ d.trim (String.ofList creator) = "" ∨
              d.trim (String.ofList token) = "" then some value
          else some (build (String.ofList creator) (String.ofList token))
        | none => some value
    | none => some value
  else some value

/-- `_canonicalRoomId`: the id of the room in the local hall. -/
def canonicalRoomId (roomId : Option String) (localHallId : String) : Option String :=
  d.roomIdFor (d.buildRoomId localHallId) roomId

def buildLegacyDirectConversationId (hallId firstVirtualIp secondVirtualIp : String) : String :=
  let ips := if d.le firstVirtualIp secondVirtualIp then firstVirtualIp ++ "|" ++ secondVirtualIp
    else secondVirtualIp ++ "|" ++ firstVirtualIp
  "dm:" ++ hallId ++ ":" ++ ips

def buildLegacyRoomId (hallId creatorVirtualIp roomToken : String) : String :=
  "room:" ++ hallId ++ ":" ++ creatorVirtualIp ++ ":" ++ roomToken

/-- `_legacyRoomIdForHallAlias`. -/
def legacyRoomIdForHallAlias (roomId : Option String) (aliasHallId : String) : Option String :=
  d.roomIdFor (buildLegacyRoomId aliasHallId) roomId

/-- `isChatRemoteAddressConsistent`. -/
def isChatRemoteAddressConsistent (remoteAddress declaredVirtualIp : String) : Bool :=
  let remote := d.trim remoteAddress
  let declared := d.trim declaredVirtualIp
  if remote = "" ∨ declared = "" then false
  else if remote = declared then true
  else
    match d.tryParse remote, d.tryParse declared with
    | some a, some b => a == b
    | _, _ => false

/-- The text is one of the address `a`, where `a` is the text of an address of a connection. -/
def Denotes (virtualIp a : String) : Prop := d.tryParse (d.trim virtualIp) = some a

instance (virtualIp a : String) : Decidable (d.Denotes virtualIp a) :=
  inferInstanceAs (Decidable (_ = _))

variable {d}

/-- The check is about the addresses: `a` is the address of a connection, in the text of the
platform. -/
theorem consistent_iff_denotes {a virtualIp : String} (ha : d.tryParse a = some a)
    (htrim : d.trim a = a) (hempty : d.tryParse "" = none) :
    d.isChatRemoteAddressConsistent a virtualIp = true ↔ d.Denotes virtualIp a := by
  have hne : a ≠ "" := by
    rintro rfl
    rw [hempty] at ha
    cases ha
  unfold isChatRemoteAddressConsistent Denotes
  rw [htrim]
  generalize d.trim virtualIp = v
  by_cases hv : v = ""
  · simp [hv, hempty]
  · by_cases hav : a = v
    · subst hav
      simp [hne, ha]
    · simp only [hne, hv, hav, or_self, if_false, ha]
      cases d.tryParse v with
      | none => simp
      | some b =>
        simp only [beq_iff_eq, Option.some.injEq]
        exact eq_comm

/-! ## Rooms and direct chats of two devices -/

/-- What holds of the text functions of the platform. -/
structure Lawful (d : Platform) : Prop where
  le_total : ∀ x y, d.le x y = true ∨ d.le y x = true
  le_antisymm : ∀ x y, d.le x y = true → d.le y x = true → x = y
  /-- A text stays if its first and its last character are not blank. -/
  trim_room : ∀ x y, y ≠ "" → d.trim y = y → d.trim ("room:" ++ x ++ y) = "room:" ++ x ++ y

/-- Both devices have the same id for their chat. -/
theorem Lawful.buildDirectConversationId_comm (h : d.Lawful) (hallId first second : String) :
    d.buildDirectConversationId hallId first second =
      d.buildDirectConversationId hallId second first := by
  unfold buildDirectConversationId
  generalize d.normalizeChatVirtualIp first = x
  generalize d.normalizeChatVirtualIp second = y
  dsimp only
  by_cases hxy : d.le x y = true
  · by_cases hyx : d.le y x = true
    · rw [h.le_antisymm x y hxy hyx]
    · rw [if_pos hxy, if_neg hyx]
  · rw [if_neg hxy, if_pos ((h.le_total x y).resolve_left hxy)]

theorem buildLegacyDirectConversationId_eq {hallId first second : String}
    (hhall : d.normalizeChatHallId hallId = hallId)
    (hfirst : d.normalizeChatVirtualIp first = first)
    (hsecond : d.normalizeChatVirtualIp second = second) :
    d.buildLegacyDirectConversationId hallId first second =
      d.buildDirectConversationId hallId first second := by
  unfold buildLegacyDirectConversationId buildDirectConversationId
  rw [hhall, hfirst, hsecond]

/-- The creator and the token of a room, which can be read off its id. -/
structure IsRoomName (d : Platform) (creatorVirtualIp roomToken : String) : Prop where
  creator_colon : ':' ∉ creatorVirtualIp.toList
  token_colon : ':' ∉ roomToken.toList
  creator_trim : d.trim creatorVirtualIp ≠ ""
  token_ne : roomToken ≠ ""
  token_trim : d.trim roomToken = roomToken

theorem splitLast_append {c : Char} {front back : List Char} (h : c ∉ back) :
    splitLast c (front ++ c :: back) = some (front, back) := by
  have hne : ∀ x ∈ back.reverse, (x != c) = true := by
    intro x hx
    exact bne_iff_ne.mpr fun he => h (he ▸ List.mem_reverse.mp hx)
  unfold splitLast
  rw [List.reverse_append, List.reverse_cons, List.append_assoc, List.singleton_append,
    List.dropWhile_append_of_pos hne, List.takeWhile_append_of_pos hne]
  simp

theorem toList_room (hall creator token : String) :
    ("room:" ++ hall ++ ":" ++ creator ++ ":" ++ token).toList =
      (("room:".toList ++ hall.toList) ++ ':' :: creator.toList) ++ ':' :: token.toList := by
  simp [String.toList_append]

theorem Lawful.roomIdFor_room (h : d.Lawful) {hall creator token : String}
    (build : String → String → String) (hhall : hall ≠ "") (hroom : d.IsRoomName creator token) :
    d.roomIdFor build (some ("room:" ++ hall ++ ":" ++ creator ++ ":" ++ token)) =
      some (build creator token) := by
  have htrim : d.trim ("room:" ++ hall ++ ":" ++ creator ++ ":" ++ token) =
      "room:" ++ hall ++ ":" ++ creator ++ ":" ++ token := by
    have := h.trim_room (hall ++ ":" ++ creator ++ ":") token hroom.token_ne hroom.token_trim
    simpa [String.append_assoc] using this
  have hlen : 5 < ("room:".toList ++ hall.toList).length := by
    have : hall.toList ≠ [] := by
      intro hnil
      exact hhall (String.toList_eq_nil_iff.mp hnil)
    have := List.length_pos_of_ne_nil this
    simp only [List.length_append]
    show 5 < 5 + _
    omega
  unfold roomIdFor
  simp only [Option.map_some, Option.getD_some, htrim, toList_room,
    splitLast_append hroom.token_colon, splitLast_append hroom.creator_colon]
  have hne : "room:" ++ hall ++ ":" ++ creator ++ ":" ++ token ≠ "" := by
    intro he
    have := congrArg String.toList he
    rw [toList_room] at this
    simp at this
  have hpre : "room:".toList.isPrefixOf ((("room:".toList ++ hall.toList) ++
      ':' :: creator.toList) ++ ':' :: token.toList) = true := by
    rw [List.isPrefixOf_iff_prefix]
    exact ⟨hall.toList ++ (':' :: creator.toList ++ ':' :: token.toList),
      by simp only [List.append_assoc]⟩
  rw [if_neg hne, if_pos hpre, if_neg (by simp only [List.length_append] at hlen ⊢; omega),
    if_neg]
  · simp
  · simp only [String.ofList_toList]
    rintro (hl | hc | ht)
    · omega
    · exact hroom.creator_trim hc
    · rw [hroom.token_trim] at ht
      exact hroom.token_ne ht

/-- Two ids of one room, whatever their halls are. -/
theorem IsRoomName.eq {hall hall' creator creator' token token' : String}
    (h : d.IsRoomName creator token) (h' : d.IsRoomName creator' token')
    (he : "room:" ++ hall ++ ":" ++ creator ++ ":" ++ token =
      "room:" ++ hall' ++ ":" ++ creator' ++ ":" ++ token') :
    creator = creator' ∧ token = token' := by
  have hl := congrArg String.toList he
  rw [toList_room, toList_room] at hl
  have hs := congrArg (splitLast ':') hl
  rw [splitLast_append h.token_colon, splitLast_append h'.token_colon] at hs
  obtain ⟨hfront, htoken⟩ := Prod.mk.inj (Option.some.inj hs)
  have hf := congrArg (splitLast ':') hfront
  rw [splitLast_append h.creator_colon, splitLast_append h'.creator_colon] at hf
  exact ⟨String.toList_inj.mp (Prod.mk.inj (Option.some.inj hf)).2, String.toList_inj.mp htoken⟩

end Platform

end Chat

end Vntc
