import RestGraph.Document
import RestGraph.Options
import RestGraph.Shape.Places
/-!
The resolver of an endpoint: a class with one method that passes the arguments on to a request
helper and returns the data of its answer.
-/

set_option autoImplicit false

namespace RestGraph

def literalChar (c : Char) : List Char :=
  if c = '\x5c' ∨ c = '\x27' then ['\x5c', c] else [c]

/-- A text as a string literal in single quotes. -/
def literal (text : String) : String :=
  String.ofList ('\x27' :: (text.toList.flatMap literalChar ++ ['\x27']))

structure Resolver where
  operation : Operation
  endpoint : String
  method : String
  parameters : List String
  requestModule : String
  contextModule : String
  deriving DecidableEq

namespace Resolver

def ofEndpoint (options : Options) (endpoint : Endpoint) : Resolver where
  operation := options.operation endpoint
  endpoint := endpoint.name
  method := endpoint.method
  parameters := endpoint.parameters.map Parameter.name
  requestModule := options.requestModule
  contextModule := options.contextModule

/-- The object of the arguments, with names that stand for themselves. -/
def argumentObject (resolver : Resolver) : String :=
  if resolver.parameters.isEmpty then "\x7b\x7d"
  else "\x7b " ++ String.intercalate ", " resolver.parameters ++ " \x7d"

def responseType (resolver : Resolver) : String :=
  Naming.responseType resolver.endpoint

def paramsType (resolver : Resolver) : String :=
  Naming.paramsType resolver.endpoint

def methodBody (resolver : Resolver) : Document :=
  .ofLines
    ["const res = await requestAPI(ctx, " ++ literal resolver.endpoint ++ ", " ++
        literal resolver.method ++ ", " ++ resolver.argumentObject ++ ");",
      "return res.data;"]

def methodDocument (resolver : Resolver) : Document :=
  .line ("@" ++ resolver.operation.decorator ++ "((returns) => " ++ resolver.responseType ++ ")") <|
    .line ("async " ++ Naming.operation resolver.endpoint ++ "(") <|
      .indent
        (.ofLines
          ["@Ctx() ctx: Context,",
            "@Args() " ++ resolver.argumentObject ++ ": " ++ resolver.paramsType]) <|
        .block ("): Promise<" ++ resolver.responseType ++ " | undefined>") resolver.methodBody .nil

def document (resolver : Resolver) : Document :=
  .line ("@Resolver((of) => " ++ resolver.responseType ++ ")") <|
    .block ("export class " ++ Naming.resolverType resolver.endpoint) resolver.methodDocument .nil

def imports (resolver : Resolver) : Document :=
  .ofLines
    ["import \x7b " ++ resolver.operation.decorator ++
        ", Ctx, Args, Resolver \x7d from 'type-graphql';",
      "import \x7b " ++ resolver.paramsType ++ ", " ++ resolver.responseType ++
        " \x7d from './typeDefs';",
      "import \x7b requestAPI \x7d from " ++ literal resolver.requestModule ++ ";",
      "import \x7b Context \x7d from " ++ literal resolver.contextModule ++ ";"]

end Resolver

end RestGraph
