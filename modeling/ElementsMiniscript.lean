import ElementsMiniscript.Script
import ElementsMiniscript.Keys
import ElementsMiniscript.Miniscript
import ElementsMiniscript.Templates
import ElementsMiniscript.Library
import ElementsMiniscript.Translate
import ElementsMiniscript.Lex
import ElementsMiniscript.Satisfy
import ElementsMiniscript.Covenant.Cov
import ElementsMiniscript.Covenant.Bounds
import ElementsMiniscript.Covenant.RoundTrip
import ElementsMiniscript.Interpreter.Inner
import ElementsMiniscript.Interpreter.Commitment
import ElementsMiniscript.Interpreter.Safety
import ElementsMiniscript.Interpreter.Accepts
import ElementsMiniscript.Interpreter.Refusals
import ElementsMiniscript.Descriptor.Expression
import ElementsMiniscript.Descriptor.Bare
import ElementsMiniscript.Descriptor.PreTaproot
import ElementsMiniscript.Covenant.Text
import ElementsMiniscript.Agreement
