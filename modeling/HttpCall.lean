import HttpCall.Text.Ascii
import HttpCall.Text.Blank
import HttpCall.Charset.Basic
import HttpCall.Error
import HttpCall.Text.PathName
import HttpCall.MediaType.Basic
import HttpCall.MediaType.Extension
import HttpCall.Header.Map
import HttpCall.Request.Method
import HttpCall.Retry.Policy
import HttpCall.Retry.Run
import HttpCall.Client.AgentFault
import HttpCall.Client.Backend
import HttpCall.Json.Value
import HttpCall.Json.Read
import HttpCall.Json.Write
import HttpCall.Number.Binary64
import HttpCall.Number.Shortest
import HttpCall.Number.Text
import HttpCall.Text.CaseData
import HttpCall.Text.Case
import HttpCall.Text.RangeTable
import HttpCall.Text.Properties
import HttpCall.Text.Decomposition
import HttpCall.Text.Nfc
import HttpCall.Text.Utf8
import HttpCall.Url.Punycode
import HttpCall.Url.IdnaMapping
import HttpCall.Url.Idna
import HttpCall.Url.Percent
import HttpCall.Url.Host
import HttpCall.Url.Basic
import HttpCall.Url.Parse
import HttpCall.Json.Decode
import HttpCall.Options.Proxy
import HttpCall.Options.Basic
import HttpCall.Options.Json
import HttpCall.Client.Build
import HttpCall.Charset.Index
import HttpCall.Charset.Decode
import HttpCall.Charset.Encode
import HttpCall.Stream.Source
import HttpCall.Body.Form
import HttpCall.Body.Part
import HttpCall.Body.Basic
import HttpCall.Request.Basic
import HttpCall.Wire.Files
import HttpCall.Wire.Multipart
import HttpCall.Wire.Entity
import HttpCall.Response.Body
import HttpCall.Response.Basic
import HttpCall.Settings.Value
import HttpCall.Settings.Datetime
import HttpCall.Settings.Toml.Value
import HttpCall.Settings.Toml.Token
import HttpCall.Settings.Toml.Quoted
import HttpCall.Settings.Toml.Scalar
import HttpCall.Settings.Toml.Table
import HttpCall.Settings.Toml
import HttpCall.Settings.Error
import HttpCall.Settings.Read
import HttpCall.Settings.Basic
import HttpCall.Client.Execute
import HttpCall.Proofs.MediaType.Params
import HttpCall.Proofs.Retry.Stop
import HttpCall.Proofs.Client.Attempts
import HttpCall.Proofs.Header.Values
import HttpCall.Proofs.Wire.Outgoing
import HttpCall.Proofs.Wire.FormData
import HttpCall.Proofs.Wire.Framing
import HttpCall.Proofs.Header.Classes
import HttpCall.Proofs.Header.Model
import HttpCall.Stream.Script
import HttpCall.Proofs.Response.Reads
import HttpCall.Proofs.Text.Utf8
import HttpCall.Proofs.Wire.FormRead
import HttpCall.Proofs.Wire.NamedCharset
import HttpCall.Proofs.MediaType.Reparse
import HttpCall.Proofs.Client.Streams
import HttpCall.Proofs.Charset.Lookup
import HttpCall.Proofs.Wire.HeaderParam
import HttpCall.Proofs.Options.Timeouts
import HttpCall.Proofs.MediaType.Grammar
import HttpCall.Proofs.Url.Authority
import HttpCall.Proofs.Options.ProxyUrl
import HttpCall.Proofs.Json.ReadBack
import HttpCall.Proofs.Options.FromJson
