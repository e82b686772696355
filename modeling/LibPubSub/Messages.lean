import LibPubSub.Reactions

/-! The lines that processes of this code write, and what a process reads out of
each of them: every line is one line of the receiver again, is recognised by
its keyword and gives the fields back that it was made of. -/

set_option autoImplicit false

namespace LibPubSub

open Pieces

/-- What may stand between the separators of a line: neither line breaks nor the
separators themselves. -/
structure FieldSafe (s : Str) : Prop where
  line : LineSafe s
  bar : '|' ∉ s
  colon : ':' ∉ s

namespace Mesh

variable {ID port : Int32} {ip : Str}

/-! ## `ID=` and `YOU=` -/

theorem lineSafe_idLine : LineSafe (idLine ID port) := by
  unfold idLine
  refine LineSafe.append (LineSafe.append (LineSafe.append ?_ (lineSafe_printInt ID)) ?_)
    (lineSafe_printInt port)
  all_goals decide

theorem idLine_starts : strStartsWith (idLine ID port) "ID=".toList = true := by
  unfold idLine
  rw [List.append_assoc, List.append_assoc]
  exact strStartsWith_append _ _

theorem linesOf_idLine : linesOf (idLine ID port) = [idLine ID port] := by
  refine linesOf_lineSafe ?_ lineSafe_idLine
  unfold idLine
  simp

/-- Both decoders of an `ID=` line get the two numbers back. -/
theorem decodeId_idLine : decodeId (idLine ID port) = (ID, port) := by
  have noBar : '|' ∉ "ID=".toList ++ printInt ID := by
    intro member
    rcases List.mem_append.mp member with start | number
    · revert start
      decide
    · exact not_mem_printInt (by decide) (by decide) number
  have split : idLine ID port =
      ("ID=".toList ++ printInt ID) ++ '|' :: ("PORT=".toList ++ printInt port) := by
    unfold idLine
    simp
  have number : ("ID=".toList ++ printInt ID : Str) = "ID".toList ++ '=' :: printInt ID := by
    simp
  have number' : ("PORT=".toList ++ printInt port : Str) = "PORT".toList ++ '=' :: printInt port := by
    simp
  unfold decodeId
  rw [split, strBefore_separator noBar, strAfter_separator noBar, number, number',
    strAfter_separator (by decide), strAfter_separator (by decide), atoi_printInt, atoi_printInt]

theorem youLine_starts : strStartsWith (youLine ip) "YOU=".toList = true :=
  strStartsWith_append _ _

theorem linesOf_youLine (safe : LineSafe ip) : linesOf (youLine ip) = [youLine ip] := by
  refine linesOf_lineSafe ?_ (LineSafe.append (by decide) safe)
  unfold youLine
  simp

theorem strAfter_youLine : strAfter (youLine ip) ['='] = ip := by
  have split : youLine ip = "YOU".toList ++ '=' :: ip := by
    unfold youLine
    simp
  rw [split, strAfter_separator (by decide)]

/-! ## `Host=` -/

/-- A line of `broadcast_hosts`. -/
def hostText (ip : Str) (port : Int32) : Str :=
  "Host=".toList ++ ip ++ ":".toList ++ printInt port

theorem hostText_starts : strStartsWith (hostText ip port) "Host=".toList = true := by
  unfold hostText
  rw [List.append_assoc, List.append_assoc]
  exact strStartsWith_append _ _

theorem lineSafe_hostText (safe : LineSafe ip) : LineSafe (hostText ip port) := by
  unfold hostText
  refine LineSafe.append (LineSafe.append (LineSafe.append ?_ safe) ?_) (lineSafe_printInt port)
  all_goals decide

theorem hostText_ne_nil : hostText ip port ≠ [] := by
  unfold hostText
  simp

/-- The text that `broadcast_hosts` writes comes out as one line a Host. -/
theorem linesOf_hostLines {hosts : List Host} (safe : ∀ host ∈ hosts, LineSafe host.ip) :
    linesOf (hosts.flatMap hostLine) = hosts.map fun host => hostText host.ip host.port := by
  have noNul : NUL ∉ hosts.flatMap hostLine := by
    intro member
    obtain ⟨host, inside, member⟩ := List.mem_flatMap.mp member
    have text : hostLine host = hostText host.ip host.port ++ ['\n'] := rfl
    rw [text] at member
    rcases List.mem_append.mp member with member | newline
    · exact (lineSafe_hostText (safe host inside)).1 member
    · revert newline
      decide
  rw [linesOf, wire_of_lineSafe noNul]
  clear noNul
  induction hosts with
  | nil => rfl
  | cons host hosts ih =>
      have text : hostLine host = hostText host.ip host.port ++ ['\n'] := rfl
      rw [List.flatMap_cons, List.map_cons, text, List.append_assoc, List.append_assoc,
        List.singleton_append,
        pieces_run_delimiter hostText_ne_nil
          (lineSafe_hostText (safe host List.mem_cons_self)).clean (by decide),
        ih fun other member => safe other (List.mem_cons_of_mem host member)]

/-- `on_receive` gets the address back. -/
theorem receiveHost_hostText (m : Mesh) (noColon : ':' ∉ ip) :
    Node.receiveHost m (hostText ip port) = m.addHost ip port := by
  have split : hostText ip port = "Host".toList ++ '=' :: (ip ++ ':' :: printInt port) := by
    unfold hostText
    simp
  unfold Node.receiveHost
  dsimp only
  rw [split, strAfter_separator (by decide), strBefore_separator noColon,
    strAfter_separator noColon, atoi_printInt]

end Mesh

namespace Node

/-! ## Statements -/

/-- What `broadcast` writes for a channel that is published here. -/
def publishLine (name ip : Str) (port : Int32) : Str :=
  "PUBLISH=".toList ++ ('P' :: name ++ "|".toList ++ (ip ++ ":".toList ++ printInt port))

def connectTcpLine (name : Str) : Str :=
  "CONNECT_TCP=".toList ++ name

def offerTcpLine (name : Str) (port : Int32) : Str :=
  "OFFER_TCP=".toList ++ name ++ "|".toList ++ printInt port

section

variable {name ip : Str} {port : Int32}

theorem publishLine_starts : strStartsWith (publishLine name ip port) "PUBLISH=".toList = true :=
  strStartsWith_append _ _

theorem strAfter_publishLine :
    strAfter (publishLine name ip port) ['='] =
      'P' :: name ++ "|".toList ++ (ip ++ ":".toList ++ printInt port) := by
  have split : publishLine name ip port =
      "PUBLISH".toList ++ '=' :: ('P' :: name ++ "|".toList ++ (ip ++ ":".toList ++ printInt port)) := by
    unfold publishLine
    simp
  rw [split, strAfter_separator (by decide)]

/-- The name in a `PUBLISH=` ends at the first `|`. -/
theorem statementName_publishLine (noBar : '|' ∉ name) :
    statementName (strAfter (publishLine name ip port) ['=']) = .ok name := by
  have split : ('P' :: name ++ "|".toList ++ (ip ++ ":".toList ++ printInt port) : Str) =
      'P' :: (name ++ '|' :: (ip ++ ":".toList ++ printInt port)) := by
    simp
  rw [strAfter_publishLine, split]
  unfold statementName substr
  rw [if_pos (by simp), List.drop_one, List.tail_cons]
  exact congrArg Except.ok (strBefore_separator noBar _)

theorem linesOf_publishLine (safeName : LineSafe name) (safeIp : LineSafe ip) :
    linesOf (publishLine name ip port) = [publishLine name ip port] := by
  refine linesOf_lineSafe ?_ ?_
  · unfold publishLine
    simp
  · have letter : LineSafe ['P'] := by decide
    have bar : LineSafe "|".toList := by decide
    have colon : LineSafe ":".toList := by decide
    have start : LineSafe "PUBLISH=".toList := by decide
    exact start.append (((letter.append safeName).append bar).append
      ((safeIp.append colon).append (lineSafe_printInt port)))

theorem connectTcpLine_starts : strStartsWith (connectTcpLine name) "CONNECT_TCP=".toList = true :=
  strStartsWith_append _ _

theorem strAfter_connectTcpLine : strAfter (connectTcpLine name) ['='] = name := by
  have split : connectTcpLine name = "CONNECT_TCP".toList ++ '=' :: name := by
    unfold connectTcpLine
    simp
  rw [split, strAfter_separator (by decide)]

theorem linesOf_connectTcpLine (safe : LineSafe name) :
    linesOf (connectTcpLine name) = [connectTcpLine name] := by
  refine linesOf_lineSafe ?_ (LineSafe.append (by decide) safe)
  unfold connectTcpLine
  simp

theorem offerTcpLine_starts : strStartsWith (offerTcpLine name port) "OFFER_TCP=".toList = true := by
  unfold offerTcpLine
  rw [List.append_assoc, List.append_assoc]
  exact strStartsWith_append _ _

theorem strAfter_offerTcpLine :
    strAfter (offerTcpLine name port) ['='] = name ++ '|' :: printInt port := by
  have split : offerTcpLine name port = "OFFER_TCP".toList ++ '=' :: (name ++ '|' :: printInt port) := by
    unfold offerTcpLine
    simp
  rw [split, strAfter_separator (by decide)]

/-- `answer_offer_tcp` gets the name and the port back. -/
theorem decode_offerTcpLine (noBar : '|' ∉ name) :
    strBefore (strAfter (offerTcpLine name port) ['=']) ['|'] = name ∧
      atoi (strAfter (strAfter (offerTcpLine name port) ['=']) ['|']) = port := by
  rw [strAfter_offerTcpLine, strBefore_separator noBar, strAfter_separator noBar, atoi_printInt]
  exact ⟨rfl, rfl⟩

theorem linesOf_offerTcpLine (safe : LineSafe name) :
    linesOf (offerTcpLine name port) = [offerTcpLine name port] := by
  refine linesOf_lineSafe ?_ ?_
  · unfold offerTcpLine
    simp
  · have start : LineSafe "OFFER_TCP=".toList := by decide
    have bar : LineSafe "|".toList := by decide
    exact ((start.append safe).append bar).append (lineSafe_printInt port)

end

/-! ## How a line is dispatched -/

section

variable {n : Node} {k : SockPtr} {h : HostPtr} {s : Str}

theorem line_id (listener : (n.mesh.sock k).listeners = some (.host h))
    (starts : strStartsWith s "ID=".toList = true) :
    n.line k s = .ok { n with mesh := receiveId n.mesh h s } := by
  rw [line, listener]
  exact if_pos starts

theorem line_you (listener : (n.mesh.sock k).listeners = some (.host h))
    (starts : strStartsWith s "YOU=".toList = true) :
    n.line k s = .ok { n with mesh := receiveYou n.mesh s } := by
  have notId : strStartsWith s "ID=".toList = false := strStartsWith_eq_false starts (by decide)
  rw [line, listener]
  dsimp only
  rw [onReceive, notId, if_neg Bool.false_ne_true, if_pos starts]
  rfl

/-- The state behind `CONNECTED`. -/
def afterConnected (n : Node) (h : HostPtr) : Node :=
  let mid := ({ n with mesh := receiveConnected n.mesh h } : Node).broadcastPublishedChannels
  { mid with mesh := mid.mesh.broadcastHosts }

theorem line_connected (listener : (n.mesh.sock k).listeners = some (.host h)) :
    n.line k "CONNECTED".toList = .ok (n.afterConnected h) := by
  have notId : strStartsWith "CONNECTED".toList "ID=".toList = false := by decide
  have notYou : strStartsWith "CONNECTED".toList "YOU=".toList = false := by decide
  rw [line, listener]
  dsimp only
  rw [onReceive, notId, notYou, if_neg Bool.false_ne_true, if_neg Bool.false_ne_true, if_pos rfl]
  rfl

theorem line_host (listener : (n.mesh.sock k).listeners = some (.host h))
    (starts : strStartsWith s "Host=".toList = true) :
    n.line k s = .ok (if (n.mesh.host h).bReady then
      { n with mesh := receiveHost n.mesh s } else n) := by
  have notId : strStartsWith s "ID=".toList = false := strStartsWith_eq_false starts (by decide)
  have notYou : strStartsWith s "YOU=".toList = false := strStartsWith_eq_false starts (by decide)
  have notConnected : s ≠ "CONNECTED".toList := by
    rintro rfl
    revert starts
    decide
  rw [line, listener]
  dsimp only
  rw [onReceive, notId, notYou, if_neg Bool.false_ne_true, if_neg Bool.false_ne_true,
    if_neg notConnected, starts]
  cases (n.mesh.host h).bReady <;> rfl

theorem line_incoming (listener : (n.mesh.sock k).listeners = some .incoming) :
    n.line k s = .ok { n with mesh := n.mesh.handleIncomingConnection k s } := by
  rw [line, listener]
  rfl

theorem line_unheard (listener : (n.mesh.sock k).listeners = none) : n.line k s = .ok n := by
  rw [line, listener]
  rfl

end

end Node

end LibPubSub
