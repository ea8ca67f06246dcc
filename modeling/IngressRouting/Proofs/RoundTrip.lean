/-
Decoding undoes encoding. Whatever has a JSON form is read back from it, on one line or
indented, and so are the published tables from their files, whatever their version
(`decode_dump`).

Each lemma says that the decoder of a type takes the values that the type is written as: a
record one member after the other, what is left out by its default, and what is behind a tag
through a buffer.
-/
import IngressRouting.Proofs.Json.Buffering
import IngressRouting.Publication
import IngressRouting.Wire.IngressObject
import IngressRouting.Wire.Report
import IngressRouting.Wire.Rules

namespace IngressRouting

open Json Json.Decoder

variable {α : Type}

theorem decode_dump_of_takes {depth : Nat} {d : Decoder α} {v : Value} {a : α}
    (h : Takes depth d v a) (hdepth : depth < 128) (pretty : Bool) :
    decode d (dump pretty v) = .ok a := by
  cases pretty with
  | false => exact h.decode hdepth v.spells_writeCompact
  | true => exact h.decode hdepth (v.spells_writePretty 0)

theorem takes_optionJson {depth : Nat} {d : Decoder α} {write : α → Value}
    (h : ∀ x, Takes depth d (write x) x) (hwrite : ∀ x, write x ≠ .null) (x : Option α) :
    Takes depth (.optional d) (optionJson write x) x := by
  cases x with
  | none => exact (takes_optional_none d).mono (Nat.zero_le depth)
  | some x => exact takes_optional_some (h x) (hwrite x)

/-! ## Annotations and reports -/

theorem Annotations.takes (a : Annotations) : Takes 1 Annotations.decoder a.toJson a :=
  takes_dictOf takes_text a

theorem ReportStatus.find?_known (s : ReportStatus) :
    ReportStatus.known.find? (·.1 = s.wireName) = some (s.wireName, s) := by
  cases s <;> rfl

theorem Report.takes (r : Report) : Takes 1 Report.decoder r.toJson r := by
  obtain ⟨status, message⟩ := r
  have hstatus := takes_variant status.find?_known
  rw [Report.toJson]
  split
  · next hempty =>
    cases hempty
    exact (Fills.field rfl rfl hstatus <| .nil _).record rfl
  · exact (Fills.field rfl rfl hstatus <| .field rfl rfl (takes_text message) <| .nil _).record rfl

/-! ## Redirect actions -/

theorem RedirectCommand.find?_known (c : RedirectCommand) :
    RedirectCommand.known.find? (·.1 = c.wireName) = some (c.wireName, c) := by
  cases c <;> rfl

namespace RedirectAction

theorem takes (a : RedirectAction) : Takes 2 RedirectAction.decoder a.toJson a :=
  (Fills.field rfl rfl ((takes_variant a.command.find?_known).mono (by decide)) <|
    .field rfl rfl (takes_listOf takes_text a.params) <| .nil _).record rfl

/-- The action in a buffer. -/
def buffered (a : RedirectAction) : Buffered :=
  .map [("cmd", .string a.command.wireName), ("params", .list (a.params.map .string))]

theorem takes_buffered (a : RedirectAction) (k : Nat) :
    Takes 2 (.buffered (k + 3)) a.toJson a.buffered :=
  (Buffers.cons "cmd" ((takes_buffered_string _).mono (by decide)) <|
    .cons "params" (takes_buffered_list takes_buffered_string a.params) .nil).takes

theorem reader_buffered (a : RedirectAction) : reader a.buffered = .ok a := by
  have hcommand := Buffered.variant_string a.command.find?_known
  have htext (s : String) : Buffered.text (.string s) = .ok s := rfl
  have hparams := Buffered.listOf_map htext a.params
  exact Buffered.record_map (Buffered.fillMembers_field rfl rfl hcommand <|
    Buffered.fillMembers_field rfl rfl hparams rfl) rfl

end RedirectAction

/-! ## Variants -/

section Variants

variable {make : String → α} {make' : RedirectAction → UInt16 → α} {title tag name : String}
  {known : List (String × Buffered.Reader α)}

/-- A variant that carries a target, whatever the variants are told apart by. -/
theorem takes_target (hknown : known.find? (·.1 = name) = some (name, targetReader title make))
    (htag : "target" ≠ tag) (target expected : String) :
    Takes 3 (.tagged expected tag known)
      (.object [(tag, .string name), ("target", .string target)]) (make target) := by
  have htarget := (takes_buffered_string (k := 127) target).mono (Nat.zero_le 2)
  have hread : targetReader title make (.map [("target", .string target)]) = .ok (make target) := rfl
  exact (Buffers.cons "target" htarget .nil).takes_tagged (by simpa using htag) hknown hread expected

theorem redirectReader_buffered (a : RedirectAction) (status : UInt16) :
    redirectReader title make'
      (.map [("action", a.buffered), ("status", .number (.natural status.toNat))]) =
      .ok (make' a status) := by
  have hstatus : (Buffered.naturalBelow UInt16.size "u16"
      (.number (.natural status.toNat))).map UInt16.ofNat = .ok status := by
    rw [Buffered.naturalBelow_number status.toNat_lt]
    exact congrArg Except.ok UInt16.ofNat_toNat
  exact Buffered.record_map (Buffered.fillMembers_field rfl rfl a.reader_buffered <|
    Buffered.fillMembers_field rfl rfl hstatus rfl) rfl

/-- A variant that carries a redirect action and a status. -/
theorem takes_redirect (hknown : known.find? (·.1 = name) = some (name, redirectReader title make'))
    (htag : "action" ≠ tag ∧ "status" ≠ tag) (a : RedirectAction) (status : UInt16)
    (expected : String) :
    Takes 3 (.tagged expected tag known)
      (.object [(tag, .string name), ("action", a.toJson), ("status", .number status.toNat)])
      (make' a status) := by
  have hlt : status.toNat < UInt64.size := Nat.lt_trans status.toNat_lt (by decide)
  have hstatus := (takes_buffered_number (k := 127) hlt).mono (Nat.zero_le 2)
  exact (Buffers.cons "action" (a.takes_buffered 125) <| .cons "status" hstatus .nil).takes_tagged
    (by simpa using htag) hknown (redirectReader_buffered a status) expected

end Variants

/-! ## Bindings -/

theorem Effect.takes (e : Effect) : Takes 3 Effect.decoder e.toJson e := by
  cases e with
  | forward target => exact takes_target rfl (by decide) target _
  | redirect action status => exact takes_redirect rfl (by decide) action status _

theorem Binding.takes (b : Binding) : Takes 4 Binding.decoder b.toJson b :=
  (Fills.field rfl rfl ((takes_text b.source).mono (by decide)) <|
    .field rfl rfl ((takes_text b.host).mono (by decide)) <|
    .field rfl rfl ((takes_text b.path).mono (by decide)) <|
    .field rfl rfl (b.annotations.takes.mono (by decide)) <|
    .field rfl rfl ((takes_uint64 b.since).mono (by decide)) <|
    .field rfl rfl b.effect.takes <| .nil _).record rfl

/-! ## Compiled rules -/

theorem RuleAction.takes (a : RuleAction) : Takes 3 RuleAction.decoder a.toJson a := by
  cases a with
  | forward target => exact takes_target rfl (by decide) target _
  | defer =>
    have hempty : Buffers 2 bufferDepth [] [] := .nil
    have hread : Buffered.nothing defer (.map []) = .ok defer := rfl
    exact hempty.takes_tagged (by simp) rfl hread _
  | redirect action status => exact takes_redirect rfl (by decide) action status _

theorem Rule.takes (r : Rule) : Takes 4 (.record Rule.record) r.toJson r :=
  (Fills.field rfl rfl ((takes_text r.source).mono (by decide)) <|
    .field rfl rfl ((takes_text r.host).mono (by decide)) <|
    .field rfl rfl ((takes_text r.path).mono (by decide)) <|
    .field rfl rfl ((takes_text r.condition).mono (by decide)) <|
    .field rfl rfl r.action.takes <| .nil _).record rfl

theorem Rules.takes (r : Rules) : Takes 6 Rules.decoder r.toJson r :=
  (Fills.field rfl rfl (takes_listOf Rule.takes r.basic) <|
    .field rfl rfl (takes_listOf Rule.takes r.advanced) <| .nil _).record rfl

/-! ## Tables -/

theorem BasicRow.takes (r : BasicRow) : Takes 1 (.record BasicRow.record) r.toJson r :=
  (Fills.field rfl rfl (takes_text r.host) <| .field rfl rfl (takes_text r.path) <|
    .field rfl rfl (takes_text r.cluster) <| .nil _).record rfl

theorem AdvancedRow.takes (r : AdvancedRow) : Takes 1 (.record AdvancedRow.record) r.toJson r :=
  (Fills.field rfl rfl (takes_text r.condition) <|
    .field rfl rfl (takes_text r.cluster) <| .nil _).record rfl

theorem splits_take (d : Dict Split) : Takes 2 splitsDecoder (d.toJson Split.toJson) d :=
  takes_dictOf (takes_dictOf takes_uint32) d

theorem RouteTable.fills (t : RouteTable) : ∃ s, RouteTable.record.build s = .ok t ∧
    Fills 2 (recordMember RouteTable.record) RouteTable.record.blank t.members s := by
  obtain ⟨basic, advanced, balance⟩ := t
  have hbasic := takes_listOf BasicRow.takes basic
  have hadvanced := takes_listOf AdvancedRow.takes advanced
  rw [RouteTable.members]
  split
  · next hempty =>
    obtain rfl : balance = ∅ := Dict.ext (List.isEmpty_iff.1 hempty)
    exact ⟨_, rfl, .field rfl rfl hbasic <| .field rfl rfl hadvanced <| .nil _⟩
  · exact ⟨_, rfl, .field rfl rfl hbasic <| .field rfl rfl hadvanced <|
      .field rfl rfl (splits_take balance) <| .nil _⟩

theorem RouteTable.takes (t : RouteTable) : Takes 3 RouteTable.decoder t.toJson t := by
  obtain ⟨s, hbuild, hfills⟩ := t.fills
  exact hfills.record hbuild

theorem RouteTable.takes_edition (e : Edition RouteTable) :
    Takes 3 RouteTable.decoder (e.toJson members) e.table := by
  obtain ⟨s, hbuild, hfills⟩ := e.table.fills
  exact (Fills.stranger rfl ((takes_passValue e.version).mono (by decide)) hfills).record hbuild

theorem RedirectRow.takes (r : RedirectRow) : Takes 4 (.record RedirectRow.record) r.toJson r :=
  (Fills.field rfl rfl ((takes_text r.condition).mono (by decide)) <|
    .field rfl rfl (takes_listOf RedirectAction.takes r.actions) <|
    .field rfl rfl ((takes_uint16 r.status).mono (by decide)) <| .nil _).record rfl

theorem RedirectTable.fills (t : RedirectTable) :
    Fills 5 (recordMember RedirectTable.record) RedirectTable.record.blank t.members (some t.rows) :=
  .field rfl rfl (takes_listOf RedirectRow.takes t.rows) (.nil _)

theorem RedirectTable.takes (t : RedirectTable) : Takes 6 RedirectTable.decoder t.toJson t :=
  t.fills.record rfl

theorem RedirectTable.takes_edition (e : Edition RedirectTable) :
    Takes 6 RedirectTable.decoder (e.toJson members) e.table :=
  (Fills.stranger rfl ((takes_passValue e.version).mono (by decide)) e.table.fills).record rfl

/-! ## Ingress objects -/

theorem ServiceRef.takes (r : ServiceRef) : Takes 1 (.record ServiceRef.record) r.toJson r :=
  (Fills.field rfl rfl (takes_text r.service) <|
    .field rfl rfl (takes_optionJson takes_uint16 (by simp) r.port) <| .nil _).record rfl

theorem PathType.find?_known (t : PathType) :
    PathType.known.find? (·.1 = t.wireName) = some (t.wireName, t) := by
  cases t <;> rfl

theorem PathEntry.takes (p : PathEntry) : Takes 2 (.record PathEntry.record) p.toJson p := by
  have htype : Takes 0 (.optional (.variant PathType.known))
      (optionJson (fun t : PathType => .string t.wireName) p.pathType) p.pathType :=
    takes_optionJson (fun t => takes_variant t.find?_known) (by simp) p.pathType
  exact (Fills.field rfl rfl ((takes_text p.path).mono (by decide)) <|
    .field rfl rfl (htype.mono (by decide)) <| .field rfl rfl p.backend.takes <| .nil _).record rfl

theorem HostEntry.takes (h : HostEntry) : Takes 4 (.record HostEntry.record) h.toJson h :=
  (Fills.field rfl rfl ((takes_text h.host).mono (by decide)) <|
    .field rfl rfl (takes_listOf PathEntry.takes h.paths) <| .nil _).record rfl

theorem IngressObject.takes (o : IngressObject) : Takes 6 IngressObject.decoder o.toJson o :=
  (Fills.field rfl rfl ((takes_text o.namespaceName).mono (by decide)) <|
    .field rfl rfl ((takes_text o.name).mono (by decide)) <|
    .field rfl rfl (o.annotations.takes.mono (by decide)) <|
    .field rfl rfl ((takes_uint64 o.created).mono (by decide)) <|
    .field rfl rfl (takes_listOf HostEntry.takes o.hosts) <| .nil _).record rfl

/-! ## Round trips -/

/-- Written in either form, the value is read as `a`. -/
def ReadsBack (d : Decoder α) (v : Value) (a : α) : Prop :=
  ∀ pretty, decode d (dump pretty v) = .ok a

/-- **Decoding undoes encoding**, for all that has a JSON form, and for the published tables with
their versions. -/
theorem decode_dump :
    (∀ a : Annotations, ReadsBack Annotations.decoder a.toJson a) ∧
    (∀ r : Report, ReadsBack Report.decoder r.toJson r) ∧
    (∀ b : Binding, ReadsBack Binding.decoder b.toJson b) ∧
    (∀ r : Rules, ReadsBack Rules.decoder r.toJson r) ∧
    (∀ t : RouteTable, ReadsBack RouteTable.decoder t.toJson t) ∧
    (∀ t : RedirectTable, ReadsBack RedirectTable.decoder t.toJson t) ∧
    (∀ o : IngressObject, ReadsBack IngressObject.decoder o.toJson o) ∧
    (∀ pretty (e : Edition RouteTable),
      decode RouteTable.decoder (RouteTable.dump pretty e) = .ok e.table) ∧
    ∀ pretty (e : Edition RedirectTable),
      decode RedirectTable.decoder (RedirectTable.dump pretty e) = .ok e.table :=
  ⟨fun a => decode_dump_of_takes a.takes (by decide),
    fun r => decode_dump_of_takes r.takes (by decide),
    fun b => decode_dump_of_takes b.takes (by decide),
    fun r => decode_dump_of_takes r.takes (by decide),
    fun t => decode_dump_of_takes t.takes (by decide),
    fun t => decode_dump_of_takes t.takes (by decide),
    fun o => decode_dump_of_takes o.takes (by decide),
    fun pretty e => decode_dump_of_takes (RouteTable.takes_edition e) (by decide) pretty,
    fun pretty e => decode_dump_of_takes (RedirectTable.takes_edition e) (by decide) pretty⟩

end IngressRouting
