import ConfigWatch.Proofs.Wire.Messages
import ConfigWatch.Protocol.Encoding

/-!
# What arrives

Every message of the service arrives as it was sent, part by part in the order of the field
numbers. Only the zeros among the doubles of a payload have lost their sign.
-/

set_option autoImplicit false

namespace ConfigWatch

open Wire

/-- What arrives of a node. -/
def Node.unsignZero (node : Node) : Node := { node with double := node.double.unsignZero }

def ReadResponse.unsignZero (response : ReadResponse) : ReadResponse :=
  { response with nodes := response.nodes.map Node.unsignZero }

def WatchResponse.unsignZero (response : WatchResponse) : WatchResponse :=
  { response with nodes := response.nodes.map Node.unsignZero }

variable {nesting : Nat}

theorem position_arrives : Arrives nesting (id : Position → Position) := by
  refine Arrives.of_leads (fun position => ?_)
  refine Leads.start Position nesting
    |>.scalar uint32_travels 1 position (·.source) (fun read source => { read with source }) ?_
    |>.scalar uint32_travels 2 position (·.line) (fun read line => { read with line }) ?_
    |>.scalar uint32_travels 3 position (·.column) (fun read column => { read with column }) ?_
    |>.reaches (by cases position; rfl)
  all_goals exact ⟨rfl, fun _ => rfl, rfl, by intros; rfl⟩

theorem source_arrives : Arrives nesting (id : Source → Source) := by
  refine Arrives.of_leads (fun source => ?_)
  refine Leads.start Source nesting
    |>.scalar uint32_travels 1 source (·.id) (fun read id => { read with id }) ?_
    |>.scalar uint32_travels 2 source (·.checksum) (fun read checksum => { read with checksum }) ?_
    |>.scalar text_travels 3 source (·.path) (fun read path => { read with path }) ?_
    |>.reaches (by cases source; rfl)
  all_goals exact ⟨rfl, fun _ => rfl, rfl, by intros; rfl⟩

theorem logEntry_arrives : Arrives (nesting + 1) (id : LogEntry → LogEntry) := by
  refine Arrives.of_leads (fun entry => ?_)
  refine Leads.start LogEntry (nesting + 1)
    |>.scalar int32_travels 1 entry (·.level) (fun read level => { read with level }) ?_
    |>.scalar text_travels 2 entry (·.message) (fun read message => { read with message }) ?_
    |>.message position_arrives 3 entry (·.position)
      (fun read position => { read with position }) ?_
    |>.message position_arrives 4 entry (·.origin) (fun read origin => { read with origin }) ?_
    |>.reaches (by rw [Option.map_id]; cases entry; rfl)
  all_goals exact ⟨rfl, fun _ => rfl, rfl, by intros; rfl⟩

theorem node_arrives : Arrives (nesting + 1) Node.unsignZero := by
  refine Arrives.of_leads (fun node => ?_)
  refine Leads.start Node (nesting + 1)
    |>.scalar int32_travels 1 node (·.valueType) (fun read valueType => { read with valueType }) ?_
    |>.scalar int32_travels 2 node (·.keyType) (fun read keyType => { read with keyType }) ?_
    |>.scalar text_travels 3 node (·.key) (fun read key => { read with key }) ?_
    |>.scalar uint32_travels 4 node (·.size) (fun read size => { read with size }) ?_
    |>.scalar uint32_travels 5 node (·.siblingOffset)
      (fun read siblingOffset => { read with siblingOffset }) ?_
    |>.scalar text_travels 6 node (·.text) (fun read text => { read with text }) ?_
    |>.scalar bytes_travel 7 node (·.bytes) (fun read bytes => { read with bytes }) ?_
    |>.scalar int64_travels 8 node (·.int) (fun read int => { read with int }) ?_
    |>.scalar double_travels 9 node (·.double) (fun read double => { read with double }) ?_
    |>.scalar bool_travels 10 node (·.bool) (fun read bool => { read with bool }) ?_
    |>.message position_arrives 11 node (·.position)
      (fun read position => { read with position }) ?_
    |>.reaches (by rw [Option.map_id]; cases node; rfl)
  all_goals exact ⟨rfl, fun _ => rfl, rfl, by intros; rfl⟩

theorem readRequest_arrives : Arrives nesting (id : ReadRequest → ReadRequest) := by
  refine Arrives.of_leads (fun request => ?_)
  refine Leads.start ReadRequest nesting
    |>.scalar text_travels 1 request (·.root) (fun read root => { read with root }) ?_
    |>.texts 2 request (·.overrides) (fun read overrides => { read with overrides }) ?_
    |>.texts 3 request (·.flavors) (fun read flavors => { read with flavors }) ?_
    |>.scalar text_travels 4 request (·.document) (fun read document => { read with document }) ?_
    |>.scalar uint32_travels 5 request (·.version) (fun read version => { read with version }) ?_
    |>.scalar int32_travels 6 request (·.logLevel) (fun read logLevel => { read with logLevel }) ?_
    |>.scalar bool_travels 7 request (·.withPositions)
      (fun read withPositions => { read with withPositions }) ?_
    |>.reaches (by cases request; rfl)
  all_goals exact ⟨rfl, fun _ => rfl, rfl, by intros; rfl⟩

theorem readResponse_arrives : Arrives (nesting + 2) ReadResponse.unsignZero := by
  refine Arrives.of_leads (fun response => ?_)
  refine Leads.start ReadResponse (nesting + 2)
    |>.scalar int32_travels 1 response (·.status) (fun read status => { read with status }) ?_
    |>.scalar uint64_travels 2 response (·.namespaceId)
      (fun read namespaceId => { read with namespaceId }) ?_
    |>.scalar uint32_travels 3 response (·.version) (fun read version => { read with version }) ?_
    |>.scalar bytes_travel 4 response (·.checksum) (fun read checksum => { read with checksum }) ?_
    |>.messages node_arrives 5 response (·.nodes) (fun read nodes => { read with nodes }) ?_
    |>.messages logEntry_arrives 6 response (·.logs) (fun read logs => { read with logs }) ?_
    |>.messages source_arrives 7 response (·.sources) (fun read sources => { read with sources }) ?_
    |>.reaches (by rw [List.map_id, List.map_id]; cases response; rfl)
  all_goals exact ⟨rfl, fun _ => rfl, rfl, by intros; rfl⟩

theorem reloadRequest_arrives : Arrives nesting (id : ReloadRequest → ReloadRequest) := by
  refine Arrives.of_leads (fun request => ?_)
  refine Leads.start ReloadRequest nesting
    |>.scalar text_travels 1 request (·.root) (fun read root => { read with root }) ?_
    |>.texts 2 request (·.paths) (fun read paths => { read with paths }) ?_
    |>.scalar bool_travels 3 request (·.all) (fun read all => { read with all }) ?_
    |>.reaches (by cases request; rfl)
  all_goals exact ⟨rfl, fun _ => rfl, rfl, by intros; rfl⟩

theorem reloadResponse_arrives : Arrives nesting (id : ReloadResponse → ReloadResponse) := by
  refine Arrives.of_leads (fun response => ?_)
  refine Leads.start ReloadResponse nesting
    |>.scalar int32_travels 1 response (·.status) (fun read status => { read with status }) ?_
    |>.scalar uint64_travels 2 response (·.namespaceId)
      (fun read namespaceId => { read with namespaceId }) ?_
    |>.scalar uint32_travels 3 response (·.version) (fun read version => { read with version }) ?_
    |>.reaches (by cases response; rfl)
  all_goals exact ⟨rfl, fun _ => rfl, rfl, by intros; rfl⟩

theorem watchRequest_arrives : Arrives nesting (id : WatchRequest → WatchRequest) := by
  refine Arrives.of_leads (fun request => ?_)
  refine Leads.start WatchRequest nesting
    |>.scalar uint32_travels 1 request (·.uid) (fun read uid => { read with uid }) ?_
    |>.scalar bool_travels 2 request (·.remove) (fun read remove => { read with remove }) ?_
    |>.scalar text_travels 3 request (·.root) (fun read root => { read with root }) ?_
    |>.texts 4 request (·.overrides) (fun read overrides => { read with overrides }) ?_
    |>.texts 5 request (·.flavors) (fun read flavors => { read with flavors }) ?_
    |>.scalar text_travels 6 request (·.document) (fun read document => { read with document }) ?_
    |>.scalar int32_travels 7 request (·.logLevel) (fun read logLevel => { read with logLevel }) ?_
    |>.scalar bool_travels 8 request (·.withPositions)
      (fun read withPositions => { read with withPositions }) ?_
    |>.reaches (by cases request; rfl)
  all_goals exact ⟨rfl, fun _ => rfl, rfl, by intros; rfl⟩

theorem watchResponse_arrives : Arrives (nesting + 2) WatchResponse.unsignZero := by
  refine Arrives.of_leads (fun response => ?_)
  refine Leads.start WatchResponse (nesting + 2)
    |>.scalar uint32_travels 1 response (·.uid) (fun read uid => { read with uid }) ?_
    |>.scalar int32_travels 2 response (·.status) (fun read status => { read with status }) ?_
    |>.scalar uint64_travels 3 response (·.namespaceId)
      (fun read namespaceId => { read with namespaceId }) ?_
    |>.scalar uint32_travels 4 response (·.version) (fun read version => { read with version }) ?_
    |>.scalar bytes_travel 5 response (·.checksum) (fun read checksum => { read with checksum }) ?_
    |>.messages node_arrives 6 response (·.nodes) (fun read nodes => { read with nodes }) ?_
    |>.messages logEntry_arrives 7 response (·.logs) (fun read logs => { read with logs }) ?_
    |>.messages source_arrives 8 response (·.sources) (fun read sources => { read with sources }) ?_
    |>.reaches (by rw [List.map_id, List.map_id]; cases response; rfl)
  all_goals exact ⟨rfl, fun _ => rfl, rfl, by intros; rfl⟩

theorem traceRequest_arrives : Arrives nesting (id : TraceRequest → TraceRequest) := by
  refine Arrives.of_leads (fun request => ?_)
  refine Leads.start TraceRequest nesting
    |>.scalar text_travels 1 request (·.root) (fun read root => { read with root }) ?_
    |>.texts 2 request (·.overrides) (fun read overrides => { read with overrides }) ?_
    |>.texts 3 request (·.flavors) (fun read flavors => { read with flavors }) ?_
    |>.scalar text_travels 4 request (·.document) (fun read document => { read with document }) ?_
    |>.reaches (by cases request; rfl)
  all_goals exact ⟨rfl, fun _ => rfl, rfl, by intros; rfl⟩

theorem traceResponse_arrives : Arrives nesting (id : TraceResponse → TraceResponse) := by
  refine Arrives.of_leads (fun response => ?_)
  refine Leads.start TraceResponse nesting
    |>.scalar int32_travels 1 response (·.status) (fun read status => { read with status }) ?_
    |>.scalar uint64_travels 2 response (·.namespaceId)
      (fun read namespaceId => { read with namespaceId }) ?_
    |>.scalar uint32_travels 3 response (·.version) (fun read version => { read with version }) ?_
    |>.texts 4 response (·.overrides) (fun read overrides => { read with overrides }) ?_
    |>.texts 5 response (·.flavors) (fun read flavors => { read with flavors }) ?_
    |>.scalar text_travels 6 response (·.document) (fun read document => { read with document }) ?_
    |>.scalar text_travels 7 response (·.peer) (fun read peer => { read with peer }) ?_
    |>.reaches (by cases response; rfl)
  all_goals exact ⟨rfl, fun _ => rfl, rfl, by intros; rfl⟩

end ConfigWatch
