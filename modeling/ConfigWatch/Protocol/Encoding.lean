import ConfigWatch.Protocol.Messages
import ConfigWatch.Wire.Message

/-!
# Field numbers of the messages

For every message the fields it is written with, in ascending order of their numbers, and the
part that each field number reads.
-/

set_option autoImplicit false

namespace ConfigWatch

open Wire

instance : Message Position where
  initial := {}
  fields position :=
    Field.ofUInt32 1 position.source ++ Field.ofUInt32 2 position.line ++
      Field.ofUInt32 3 position.column
  merge _ position field :=
    match field.number with
    | 1 => field.value.uint32?.map (fun source => { position with source })
    | 2 => field.value.uint32?.map (fun line => { position with line })
    | 3 => field.value.uint32?.map (fun column => { position with column })
    | _ => some position

def positionField (number : Nat) (position : Option Position) : List Field :=
  position.toList.map (Field.ofMessage number)

instance : Message Source where
  initial := {}
  fields source :=
    Field.ofUInt32 1 source.id ++ Field.ofUInt32 2 source.checksum ++ Field.ofText 3 source.path
  merge _ source field :=
    match field.number with
    | 1 => field.value.uint32?.map (fun id => { source with id })
    | 2 => field.value.uint32?.map (fun checksum => { source with checksum })
    | 3 => field.value.text?.map (fun path => { source with path })
    | _ => some source

instance : Message LogEntry where
  initial := {}
  fields entry :=
    Field.ofInt32 1 entry.level ++ Field.ofText 2 entry.message ++
      positionField 3 entry.position ++ positionField 4 entry.origin
  merge nesting entry field :=
    match field.number with
    | 1 => field.value.int32?.map (fun level => { entry with level })
    | 2 => field.value.text?.map (fun message => { entry with message })
    | 3 => (field.value.message? nesting entry.position).map
        (fun position => { entry with position := some position })
    | 4 => (field.value.message? nesting entry.origin).map
        (fun origin => { entry with origin := some origin })
    | _ => some entry

instance : Message Node where
  initial := {}
  fields node :=
    Field.ofInt32 1 node.valueType ++ Field.ofInt32 2 node.keyType ++ Field.ofText 3 node.key ++
      Field.ofUInt32 4 node.size ++ Field.ofUInt32 5 node.siblingOffset ++
      Field.ofText 6 node.text ++ Field.ofBytes 7 node.bytes ++ Field.ofInt64 8 node.int ++
      Field.ofDouble 9 node.double ++ Field.ofBool 10 node.bool ++ positionField 11 node.position
  merge nesting node field :=
    match field.number with
    | 1 => field.value.int32?.map (fun valueType => { node with valueType })
    | 2 => field.value.int32?.map (fun keyType => { node with keyType })
    | 3 => field.value.text?.map (fun key => { node with key })
    | 4 => field.value.uint32?.map (fun size => { node with size })
    | 5 => field.value.uint32?.map (fun siblingOffset => { node with siblingOffset })
    | 6 => field.value.text?.map (fun text => { node with text })
    | 7 => field.value.bytes?.map (fun bytes => { node with bytes })
    | 8 => field.value.int64?.map (fun int => { node with int })
    | 9 => field.value.double?.map (fun double => { node with double })
    | 10 => field.value.bool?.map (fun bool => { node with bool })
    | 11 => (field.value.message? nesting node.position).map
        (fun position => { node with position := some position })
    | _ => some node

/-- A message of a repeated field, which starts from the initial one. -/
def repeated? {α : Type} [Message α] (nesting : Nat) (field : Field) : Option α :=
  field.value.message? nesting none

instance : Message ReadRequest where
  initial := {}
  fields request :=
    Field.ofText 1 request.root ++ Field.ofTexts 2 request.overrides ++
      Field.ofTexts 3 request.flavors ++ Field.ofText 4 request.document ++
      Field.ofUInt32 5 request.version ++ Field.ofInt32 6 request.logLevel ++
      Field.ofBool 7 request.withPositions
  merge _ request field :=
    match field.number with
    | 1 => field.value.text?.map (fun root => { request with root })
    | 2 => field.value.text?.map
        (fun text => { request with overrides := request.overrides ++ [text] })
    | 3 => field.value.text?.map
        (fun text => { request with flavors := request.flavors ++ [text] })
    | 4 => field.value.text?.map (fun document => { request with document })
    | 5 => field.value.uint32?.map (fun version => { request with version })
    | 6 => field.value.int32?.map (fun logLevel => { request with logLevel })
    | 7 => field.value.bool?.map (fun withPositions => { request with withPositions })
    | _ => some request

instance : Message ReadResponse where
  initial := {}
  fields response :=
    Field.ofInt32 1 response.status ++ Field.ofUInt64 2 response.namespaceId ++
      Field.ofUInt32 3 response.version ++ Field.ofBytes 4 response.checksum ++
      response.nodes.map (Field.ofMessage 5) ++ response.logs.map (Field.ofMessage 6) ++
      response.sources.map (Field.ofMessage 7)
  merge nesting response field :=
    match field.number with
    | 1 => field.value.int32?.map (fun status => { response with status })
    | 2 => field.value.uint64?.map (fun namespaceId => { response with namespaceId })
    | 3 => field.value.uint32?.map (fun version => { response with version })
    | 4 => field.value.bytes?.map (fun checksum => { response with checksum })
    | 5 => (repeated? nesting field).map
        (fun node => { response with nodes := response.nodes ++ [node] })
    | 6 => (repeated? nesting field).map
        (fun log => { response with logs := response.logs ++ [log] })
    | 7 => (repeated? nesting field).map
        (fun source => { response with sources := response.sources ++ [source] })
    | _ => some response

instance : Message ReloadRequest where
  initial := {}
  fields request :=
    Field.ofText 1 request.root ++ Field.ofTexts 2 request.paths ++ Field.ofBool 3 request.all
  merge _ request field :=
    match field.number with
    | 1 => field.value.text?.map (fun root => { request with root })
    | 2 => field.value.text?.map (fun path => { request with paths := request.paths ++ [path] })
    | 3 => field.value.bool?.map (fun all => { request with all })
    | _ => some request

instance : Message ReloadResponse where
  initial := {}
  fields response :=
    Field.ofInt32 1 response.status ++ Field.ofUInt64 2 response.namespaceId ++
      Field.ofUInt32 3 response.version
  merge _ response field :=
    match field.number with
    | 1 => field.value.int32?.map (fun status => { response with status })
    | 2 => field.value.uint64?.map (fun namespaceId => { response with namespaceId })
    | 3 => field.value.uint32?.map (fun version => { response with version })
    | _ => some response

instance : Message WatchRequest where
  initial := {}
  fields request :=
    Field.ofUInt32 1 request.uid ++ Field.ofBool 2 request.remove ++
      Field.ofText 3 request.root ++ Field.ofTexts 4 request.overrides ++
      Field.ofTexts 5 request.flavors ++ Field.ofText 6 request.document ++
      Field.ofInt32 7 request.logLevel ++ Field.ofBool 8 request.withPositions
  merge _ request field :=
    match field.number with
    | 1 => field.value.uint32?.map (fun uid => { request with uid })
    | 2 => field.value.bool?.map (fun remove => { request with remove })
    | 3 => field.value.text?.map (fun root => { request with root })
    | 4 => field.value.text?.map
        (fun text => { request with overrides := request.overrides ++ [text] })
    | 5 => field.value.text?.map
        (fun text => { request with flavors := request.flavors ++ [text] })
    | 6 => field.value.text?.map (fun document => { request with document })
    | 7 => field.value.int32?.map (fun logLevel => { request with logLevel })
    | 8 => field.value.bool?.map (fun withPositions => { request with withPositions })
    | _ => some request

instance : Message WatchResponse where
  initial := {}
  fields response :=
    Field.ofUInt32 1 response.uid ++ Field.ofInt32 2 response.status ++
      Field.ofUInt64 3 response.namespaceId ++ Field.ofUInt32 4 response.version ++
      Field.ofBytes 5 response.checksum ++ response.nodes.map (Field.ofMessage 6) ++
      response.logs.map (Field.ofMessage 7) ++ response.sources.map (Field.ofMessage 8)
  merge nesting response field :=
    match field.number with
    | 1 => field.value.uint32?.map (fun uid => { response with uid })
    | 2 => field.value.int32?.map (fun status => { response with status })
    | 3 => field.value.uint64?.map (fun namespaceId => { response with namespaceId })
    | 4 => field.value.uint32?.map (fun version => { response with version })
    | 5 => field.value.bytes?.map (fun checksum => { response with checksum })
    | 6 => (repeated? nesting field).map
        (fun node => { response with nodes := response.nodes ++ [node] })
    | 7 => (repeated? nesting field).map
        (fun log => { response with logs := response.logs ++ [log] })
    | 8 => (repeated? nesting field).map
        (fun source => { response with sources := response.sources ++ [source] })
    | _ => some response

instance : Message TraceRequest where
  initial := {}
  fields request :=
    Field.ofText 1 request.root ++ Field.ofTexts 2 request.overrides ++
      Field.ofTexts 3 request.flavors ++ Field.ofText 4 request.document
  merge _ request field :=
    match field.number with
    | 1 => field.value.text?.map (fun root => { request with root })
    | 2 => field.value.text?.map
        (fun text => { request with overrides := request.overrides ++ [text] })
    | 3 => field.value.text?.map
        (fun text => { request with flavors := request.flavors ++ [text] })
    | 4 => field.value.text?.map (fun document => { request with document })
    | _ => some request

instance : Message TraceResponse where
  initial := {}
  fields response :=
    Field.ofInt32 1 response.status ++ Field.ofUInt64 2 response.namespaceId ++
      Field.ofUInt32 3 response.version ++ Field.ofTexts 4 response.overrides ++
      Field.ofTexts 5 response.flavors ++ Field.ofText 6 response.document ++
      Field.ofText 7 response.peer
  merge _ response field :=
    match field.number with
    | 1 => field.value.int32?.map (fun status => { response with status })
    | 2 => field.value.uint64?.map (fun namespaceId => { response with namespaceId })
    | 3 => field.value.uint32?.map (fun version => { response with version })
    | 4 => field.value.text?.map
        (fun text => { response with overrides := response.overrides ++ [text] })
    | 5 => field.value.text?.map
        (fun text => { response with flavors := response.flavors ++ [text] })
    | 6 => field.value.text?.map (fun document => { response with document })
    | 7 => field.value.text?.map (fun peer => { response with peer })
    | _ => some response

end ConfigWatch
