import ApiBridge.Json.Writer
import ApiBridge.Settings.Basic
import ApiBridge.Tool

/-!
# Files of a project

The texts of the files of a generated project, each a function of what the project is made from.
Values stand in them as JSON that is safe inside a script.
-/

namespace ApiBridge

/-- What the files of a project are made from. -/
structure Blueprint where
  title : String
  version : String
  baseUrl : String
  tools : List Tool
  settings : Settings
  deriving Repr, Inhabited

namespace Blueprint

/-- A text as JSON. -/
def json (s : String) : String :=
  Json.writeString .script s

/-- A value as JSON. -/
def jsonValue (v : Value) : String :=
  Json.write .script v

/-- Lines with a comma after all but the last. -/
def commaLines (lines : List String) : String :=
  match lines with
  | [] => ""
  | _ => ",\n".intercalate lines ++ "\n"

/-- The name of the package. -/
def packageName (b : Blueprint) : String :=
  Name.ofPackage b.title

/-! ### Server -/

/-- What a table by name gives for a tool: of tools with one name, the last counts. -/
def lastNamed (tools : List Tool) (t : Tool) : Tool :=
  (tools.reverse.find? (·.name = t.name)).getD t

/-- The line of a tool in the table of routes. -/
def routeLine (tools : List Tool) (t : Tool) : String :=
  "  " ++ json t.name ++ ": " ++ jsonValue (lastNamed tools t).route

/-- The entry of a tool in the list that the server gives. -/
def toolEntry (tools : List Tool) (t : Tool) : String :=
  "      \x7b\n        name: " ++ json t.name
    ++ ",\n        description: " ++ json t.description
    ++ ",\n        inputSchema: " ++ jsonValue (lastNamed tools t).inputSchema
    ++ ",\n      \x7d"

/-- The first lines of the server. -/
def serverImports : List String :=
  ["#!/usr/bin/env node",
    "",
    "import \x7b Server \x7d from '@modelcontextprotocol/sdk/server/index.js';",
    "import \x7b StdioServerTransport \x7d from '@modelcontextprotocol/sdk/server/stdio.js';",
    "import \x7b",
    "  CallToolRequestSchema,",
    "  ListToolsRequestSchema,",
    "\x7d from '@modelcontextprotocol/sdk/types.js';",
    "import axios, \x7b AxiosRequestConfig \x7d from 'axios';"]

/-- The server up to the table of routes. -/
def serverStart (baseUrl contentType : String) : String :=
  String.join (serverImports.map (· ++ "\n")) ++ "
const BASE_URL: string = " ++ baseUrl ++ ";
const CONTENT_TYPE: string = " ++ contentType ++ ";

interface Route \x7b
  method: string;
  path: string;
  pathParams: string[];
  queryParams: string[];
  headerParams: string[];
  cookieParams: string[];
  hasBody: boolean;
\x7d

const ROUTES: Record<string, Route> = \x7b
"

/-- The server between the table of routes and the list of tools. -/
def serverMiddle (title version : String) : String :=
  "\x7d;

const server = new Server(
  \x7b
    name: " ++ title ++ ",
    version: " ++ version ++ ",
  \x7d,
  \x7b
    capabilities: \x7b
      tools: \x7b\x7d,
    \x7d,
  \x7d,
);

server.setRequestHandler(ListToolsRequestSchema, async () => \x7b
  return \x7b
    tools: [
"

/-- The server from the end of the list of tools on. -/
def serverEnd (banner : String) : String :=
  "    ],
  \x7d;
\x7d);

server.setRequestHandler(CallToolRequestSchema, async (request) => \x7b
  const \x7b name \x7d = request.params;
  const args: Record<string, any> = request.params.arguments ?? \x7b\x7d;

  try \x7b
    const route = ROUTES[name];
    if (!route) \x7b
      throw new Error(\x60Unknown tool: $\x7bname\x7d\x60);
    \x7d

    let url = BASE_URL + route.path;
    for (const param of route.pathParams) \x7b
      if (args[param] !== undefined) \x7b
        url = url.replace(\x60\x7b$\x7bparam\x7d\x7d\x60, encodeURIComponent(String(args[param])));
      \x7d
    \x7d

    const params: Record<string, any> = \x7b\x7d;
    for (const param of route.queryParams) \x7b
      if (args[param] !== undefined) \x7b
        params[param] = args[param];
      \x7d
    \x7d

    const headers: Record<string, string> = \x7b\x7d;
    for (const param of route.headerParams) \x7b
      if (args[param] !== undefined) \x7b
        headers[param] = String(args[param]);
      \x7d
    \x7d

    const cookies = route.cookieParams
      .filter((param) => args[param] !== undefined)
      .map((param) => \x60$\x7bparam\x7d=$\x7bencodeURIComponent(String(args[param]))\x7d\x60);
    if (cookies.length > 0) \x7b
      headers['Cookie'] = cookies.join('; ');
    \x7d

    const config: AxiosRequestConfig = \x7b
      method: route.method,
      url,
      params,
      headers,
    \x7d;

    if (route.hasBody && args.requestBody !== undefined) \x7b
      config.data = args.requestBody;
      headers['Content-Type'] = CONTENT_TYPE;
    \x7d

    const response = await axios(config);

    return \x7b
      content: [
        \x7b
          type: 'text',
          text: JSON.stringify(
            \x7b
              status: response.status,
              statusText: response.statusText,
              data: response.data,
              headers: response.headers,
            \x7d,
            null,
            2,
          ),
        \x7d,
      ],
    \x7d;
  \x7d catch (error) \x7b
    const errorMessage = error instanceof Error ? error.message : String(error);
    return \x7b
      content: [
        \x7b
          type: 'text',
          text: \x60Error calling $\x7bname\x7d: $\x7berrorMessage\x7d\x60,
        \x7d,
      ],
      isError: true,
    \x7d;
  \x7d
\x7d);

async function main() \x7b
  const transport = new StdioServerTransport();
  await server.connect(transport);
  console.error(" ++ banner ++ ");
\x7d

main().catch(console.error);
"

/-- The server. -/
def serverText (b : Blueprint) : String :=
  serverStart (json b.baseUrl) (json b.settings.constants.contentType)
    ++ commaLines (b.tools.map (routeLine b.tools))
    ++ serverMiddle (json b.title) (json b.version)
    ++ commaLines (b.tools.map (toolEntry b.tools))
    ++ serverEnd (json (b.title ++ " MCP server running on stdio"))

/-! ### Manifest -/

/-- The line of a package with its version. -/
def versionLine (v : String × String) : String :=
  "    " ++ json v.1 ++ ": " ++ json v.2

/-- The manifest of the package. -/
def manifestText (b : Blueprint) : String :=
  let scripts := b.settings.scripts
  "\x7b
  \"name\": " ++ json b.packageName ++ ",
  \"version\": \"1.0.0\",
  \"description\": " ++ json ("MCP server for " ++ b.title) ++ ",
  \"type\": \"module\",
  \"main\": \"dist/index.js\",
  \"bin\": \x7b
    " ++ json b.packageName ++ ": \"dist/index.js\"
  \x7d,
  \"scripts\": \x7b
    \"build\": " ++ json scripts.build ++ ",
    \"start\": " ++ json scripts.start ++ ",
    \"dev\": " ++ json scripts.dev ++ "
  \x7d,
  \"dependencies\": \x7b
" ++ commaLines (b.settings.packages.versions.map versionLine) ++ "  \x7d,
  \"devDependencies\": \x7b
" ++ commaLines (b.settings.toolPackages.versions.map versionLine) ++ "  \x7d
\x7d
"

/-- The manifest of the package, if the versions of all packages are writable. -/
def writtenManifest (b : Blueprint) : Except TextError String :=
  if b.settings.packages.isWritable && b.settings.toolPackages.isWritable then .ok b.manifestText
  else .error .integerTooLong

/-! ### Compiler options -/

/-- The options of the compiler. -/
def compilerOptionsText (b : Blueprint) : String :=
  let constants := b.settings.constants
  "\x7b
  \"compilerOptions\": \x7b
    \"target\": " ++ json constants.nodeTarget ++ ",
    \"module\": " ++ json constants.moduleSystem ++ ",
    \"moduleResolution\": " ++ json constants.moduleResolution ++ ",
    \"esModuleInterop\": true,
    \"allowSyntheticDefaultImports\": true,
    \"strict\": true,
    \"skipLibCheck\": true,
    \"forceConsistentCasingInFileNames\": true,
    \"outDir\": \"./dist\",
    \"rootDir\": \"./src\",
    \"declaration\": true,
    \"sourceMap\": true
  \x7d,
  \"include\": [\"src/**/*\"],
  \"exclude\": [\"node_modules\", \"dist\"]
\x7d
"

/-! ### Guide -/

/-- The mark of what must be given. -/
def requiredMark (required : Bool) : String :=
  if required then " *Required*" else ""

/-- The line of a parameter. -/
def parameterLine (p : ToolParameter) : String :=
  "- \x60" ++ p.name ++ "\x60 (" ++ p.location.word ++ ") - " ++ p.description
    ++ requiredMark p.required ++ "\n"

/-- The section of a tool. -/
def toolSection (t : Tool) : String :=
  "### " ++ t.name ++ "\n\n" ++ t.description ++ "\n\n**Method:** " ++ t.method ++ "\n**Path:** "
    ++ t.path ++ "\n\n"
    ++ (if t.parameters.isEmpty then ""
      else "**Parameters:**\n" ++ String.join (t.parameters.map parameterLine) ++ "\n")
    ++ (t.body.map fun b =>
      "**Request Body:** " ++ b.description ++ requiredMark b.required ++ "\n\n").getD ""

/-- The guide to the project. -/
def guideText (b : Blueprint) : String :=
  "# " ++ b.title ++ " MCP Server

This is a Model Context Protocol (MCP) server generated from the " ++ b.title
    ++ " API specification.

Requests are sent to \x60" ++ b.baseUrl ++ "\x60.

## Installation

\x60\x60\x60bash
npm install
npm run build
\x60\x60\x60

## Usage

\x60\x60\x60bash
npm start
\x60\x60\x60

## Available Tools

" ++ String.join (b.tools.map toolSection)

end Blueprint

end ApiBridge
