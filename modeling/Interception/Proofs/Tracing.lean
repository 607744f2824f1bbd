import Interception.Registry

/-!
# Tracers

A tracer proceeds with its label as one more argument and leaves a mark before and
after. The trace of a call shows who was asked in which order, and the arguments that
arrive show who has been asked before.
-/

set_option autoImplicit false

namespace Interception.Tracing

inductive Mark where
  | before (label : String)
  | served (method : String)
  | after (label : String)
  deriving DecidableEq

def close : Method := ⟨"Closeable", "close", []⟩

def update : Method := ⟨"Executor", "update", ["String", "i64"]⟩

def closeable : Interface := ⟨"Closeable", [close], []⟩

def executor : Interface := ⟨"Executor", [update], [closeable]⟩

/-- Realizes everything through its ancestor and answers with the number of arguments. -/
def worker : Target (List Mark) where
  descriptor := ⟨⟨"MockExecutor", []⟩, [⟨"BaseExecutor", [executor]⟩]⟩
  serve m args trace := (.ok (.ofSize (.ofNat args.size)), trace ++ [.served m.name])

/-- What a tracer does with a call of `m`. -/
def traced (label : String) (m : Method) (args : Args) : Activity (List Mark) :=
  .modify (· ++ [.before label]) <|
    .call m (args.push (.ofText label)) fun o =>
      .modify (· ++ [.after label]) (.finish o)

def tracer (label : String) (signatures : List Signature) : Interceptor (List Mark) where
  name := label
  signatures := signatures
  intercept i := traced label i.method i.args

/-- Hands over tracers, and marks every instance and every time one is configured. -/
def maker (label : String) (signatures : List Signature) : Factory (List Mark) := fun trace =>
  (⟨fun _ trace => (.ok (tracer label signatures), trace ++ [.after label])⟩,
    trace ++ [.before label])

end Interception.Tracing
