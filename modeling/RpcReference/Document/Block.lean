import RpcReference.Document.Name
import RpcReference.Document.FieldType
import RpcReference.Config.Basic
/-!
# Blocks of a document

Each part of a document is a list of lines: the front matter, the set-up samples of a service, the
samples and tables of a call, the table of a message, and the table of an enumeration.
-/

namespace RpcReference.Document

open Text

def line (parts : List Text) : Text :=
  parts.flatten

def stack (groups : List (List Text)) : List Text :=
  groups.flatten

section

local instance : Coe String Text := ⟨String.toList⟩

/-! ### Front matter -/

def listItems (items : List Text) : List Text :=
  items.map fun item => line ["  - ", item]

def frontMatter (config : Config) : List Text :=
  stack [
    ["---", line ["title: ", config.title], "", "language_tabs:"],
    listItems config.languageTabs,
    ["", "toc_footers:"],
    listItems config.tocFooters,
    ["", line ["search: ", if config.search then "true" else "false"], "---"]]

/-! ### Services -/

/-- The heading of a service, and how its client is set up in each language. -/
def serviceBlock (fileName : Text) (service : Service) : List Text :=
  let client := lower service.name
  let package := stem fileName
  [line ["# ", service.name, " Service"],
    "```javascript",
    "var fs = require('fs');",
    "var grpc = require('grpc');",
    "var options = \x7b",
    "  convertFieldsToCamelCase: true,",
    "  longsAsStrings: true,",
    "\x7d;",
    line ["var ", client, "Proto = grpc.load('", fileName, "', 'proto', options);"],
    "var tlsCert = fs.readFileSync('path/to/tls.cert');",
    "var sslCreds = grpc.credentials.createSsl(tlsCert);",
    line ["var ", client, "Client = new ", client, "Proto.", service.name,
      "(host + ':' + port, sslCreds);"],
    "```",
    "```python",
    "# Python requires you to generate static protobuf code, see the following guide:",
    "# https://grpc.io/docs/tutorials/basic/python.html#generating-client-and-server-code",
    "",
    "import grpc",
    line ["import ", package, "_pb2 as ", client, ", ", package, "_pb2_grpc as ", client, "rpc"],
    "cert = open('path/to/tls.cert', 'rb').read()",
    "ssl_creds = grpc.ssl_channel_credentials(cert)",
    "channel = grpc.secure_channel(host + ':' + port, ssl_creds)",
    line [client, "_stub = ", client, "rpc.", service.name, "Stub(channel)"],
    "```"]

/-! ### Tables -/

def fieldTable (schema : Schema) (fields : List Field) : List Text :=
  stack [
    ["Parameter | Type | Description", "--------- | ---- | -----------"],
    fields.map fun f => line [f.name, " | ", tableType schema f, " | ", f.comment]]

/-- The table of fields, or the remark that there are none. -/
def fieldSection (schema : Schema) (kind : Text) (fields : List Field) : List Text :=
  if fields.isEmpty then [line ["This ", kind, " has no parameters."]]
  else fieldTable schema fields

/-! ### Calls -/

/-- The fields as items of a sample, with a comma after each but the last. -/
def commaItems (item : Field → Text) : List Field → List Text
  | [] => []
  | [f] => [item f]
  | f :: fields => line [item f, ","] :: commaItems item fields

def scriptRequest (schema : Schema) (request : Message) : List Text :=
  if request.isEmpty then ["var request = \x7b\x7d;"]
  else
    stack [
      ["var request = \x7b"],
      request.fields.map fun f => line ["  ", camelCase f.name, ": <", codeType schema f, ">,"],
      ["\x7d;"]]

def scriptInvocation (client : Text) (call : Call) : List Text :=
  if call.stream then
    ["",
      line ["var call = ", client, "Client.", lowerInitial call.name, "(request);"],
      "call.on('data', function (response) \x7b",
      "  console.log(response);",
      "\x7d);",
      "call.on('error', function (err) \x7b",
      "  console.error(err);",
      "\x7d);",
      "call.on('end', function () \x7b",
      "  // the streaming call has been ended by the server",
      "\x7d);"]
  else
    ["",
      line [client, "Client.", lowerInitial call.name, "(request, function(err, response) \x7b"],
      "  if (err) \x7b",
      "    console.error(err);",
      "  \x7d else \x7b",
      "    console.log(response);",
      "  \x7d",
      "\x7d);"]

/-- The printed response, as comments that begin with `mark`. -/
def sampleOutput (schema : Schema) (mark : Text) (shown : Text → Text) (response : Message) :
    List Text :=
  if response.isEmpty then [line [mark, " Output: \x7b\x7d"]]
  else
    stack [
      [line [mark, " Output:"], line [mark, " \x7b"]],
      commaItems
        (fun f => line [mark, "  \"", shown f.name, "\": <", codeType schema f, ">"])
        response.fields,
      [line [mark, " \x7d"]]]

def pythonRequest (schema : Schema) (client : Text) (request : Message) : List Text :=
  if request.isEmpty then [line ["request = ", client, ".", request.name, "()"]]
  else
    stack [
      [line ["request = ", client, ".", request.name, "("]],
      request.fields.map fun f => line ["  ", f.name, "=<", codeType schema f, ">,"],
      [")"]]

def pythonInvocation (client : Text) (call : Call) : List Text :=
  if call.stream then
    [line ["for response in ", client, "_stub.", call.name, "(request):"], "  print(response)"]
  else [line ["response = ", client, "_stub.", call.name, "(request)"], "print(response)"]

/-- The commands that show a call; nothing if there are none. -/
def shellSample : Option Text → List Text
  | none => []
  | some [] => []
  | some commands => ["```shell", commands, "```"]

def callBlock (schema : Schema) (service : Service) (call : Call) (request response : Message) :
    List Text :=
  let client := lower service.name
  stack [
    [line ["## ", call.name], "```javascript"],
    scriptRequest schema request,
    scriptInvocation client call,
    sampleOutput schema "//" camelCase response,
    ["```", "```python"],
    pythonRequest schema client request,
    pythonInvocation client call,
    sampleOutput schema "#" id response,
    ["```"],
    shellSample call.shell,
    [call.comment, "### Request"],
    fieldSection schema "request" request.fields,
    [if call.stream then "### Response (Streaming)" else "### Response"],
    fieldSection schema "response" response.fields]

/-! ### Messages and enumerations -/

def messageBlock (schema : Schema) (message : Message) : List Text :=
  line ["## ", message.name] :: fieldSection schema "message" message.fields

def valueRows (values : List Text) : List Text :=
  values.zipIdx.map fun (value, index) => line [value, " | ", decimal index, " |"]

def enumBlock (enum : Enumeration) : List Text :=
  stack [
    [line ["## ", enum.name]],
    if enum.comment.isEmpty then [] else [enum.comment],
    ["Enumeration | Value | Description", "----------- | ----- | -----------"],
    valueRows enum.values]

end

end RpcReference.Document
