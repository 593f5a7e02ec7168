import TokenTransfer.Decimal
import TokenTransfer.Telemetry.Counters

namespace TokenTransfer.Exposition

structure Row where
  labels : List (String × String)
  series : Series

structure Family where
  name : String
  help : String
  type : String
  sample : String
  rows : List Row

-- Families are sorted by name, and the rows of each by their label values.
def families : List Family :=
  [⟨"ics20_acknowledgements_total","Acknowledgements processed","counter","ics20_acknowledgements_total",
    [⟨[("result","failure")],.acknowledged false⟩,⟨[("result","success")],.acknowledged true⟩]⟩,
   ⟨"ics20_callback_duration_seconds","Time spent inside a packet callback","histogram",
    "ics20_callback_duration_seconds_count",
    [⟨[("callback","ack")],.called .acknowledge⟩,⟨[("callback","recv")],.called .receive⟩,
     ⟨[("callback","send")],.called .send⟩,⟨[("callback","timeout")],.called .timeout⟩]⟩,
   ⟨"ics20_errors_total","Rejected transfer module calls","counter","ics20_errors_total",
    [ErrorKind.channelNotFound,.escrowNotConfigured,.insufficientBalance,.insufficientEscrow,.invalidPort,
      .malformedPayload,.balanceOverflow,.alreadySettled,.receiveDisabled,.sendDisabled,.unauthorized].map
      fun kind => ⟨[("error_type",kind.label)],.failed kind⟩⟩,
   ⟨"ics20_packets_received_total","Inbound transfer packets processed","counter",
    "ics20_packets_received_total",
    [⟨[("action","mint"),("outcome","success")],.received .minted⟩,
     ⟨[("action","none"),("outcome","error")],.received .refused⟩,
     ⟨[("action","release"),("outcome","success")],.received .released⟩]⟩,
   ⟨"ics20_packets_sent_total","Outbound transfer packets created","counter","ics20_packets_sent_total",
    [⟨[("debit","burn")],.sent .burn⟩,⟨[("debit","escrow")],.sent .escrow⟩]⟩,
   ⟨"ics20_refunds_total","Refunds issued to senders","counter","ics20_refunds_total",
    [⟨[("mechanism","mint"),("trigger","ack")],.refunded .acknowledgement .mint⟩,
     ⟨[("mechanism","mint"),("trigger","timeout")],.refunded .timeout .mint⟩,
     ⟨[("mechanism","release"),("trigger","ack")],.refunded .acknowledgement .release⟩,
     ⟨[("mechanism","release"),("trigger","timeout")],.refunded .timeout .release⟩]⟩]

def labelText (labels : List (String × String)) : String :=
  "\x7b" ++ String.intercalate "," (labels.map fun label => label.1 ++ "=\"" ++ label.2 ++ "\"") ++ "\x7d"

def rowText (sample : String) (counters : Counters) (row : Row) : String :=
  sample ++ labelText row.labels ++ " " ++ Decimal.text (counters row.series)

-- A family with no count is not shown, nor is a series without one. Durations
-- are shown by their number alone.
def familyLines (counters : Counters) (family : Family) : List String :=
  match family.rows.filter fun row => counters row.series != 0 with
  | [] => []
  | rows =>
    ("# HELP " ++ family.name ++ " " ++ family.help) :: ("# TYPE " ++ family.name ++ " " ++ family.type) ::
      rows.map (rowText family.sample counters)

def lines (counters : Counters) : List String := families.flatMap (familyLines counters)

end TokenTransfer.Exposition
