import AccountPanel.Page.Content
import AccountPanel.Main
import AccountPanel.Proofs.Text.Parts
import AccountPanel.Proofs.Text.Utf8
import AccountPanel.Proofs.Text.Trailing
import AccountPanel.Proofs.Urlencoded
import AccountPanel.Proofs.Percent
import AccountPanel.Proofs.Avatar
import AccountPanel.Proofs.BaseUrl
import AccountPanel.Proofs.Environment
import AccountPanel.Proofs.EnvFile.Value
import AccountPanel.Proofs.EnvFile.Lines
import AccountPanel.Proofs.EnvFile.Assignment
import AccountPanel.Proofs.Settings
import AccountPanel.Proofs.Lookup
import AccountPanel.Proofs.Markup.Nested
import AccountPanel.Proofs.Markup.Openings
import AccountPanel.Proofs.Page.Layout
import AccountPanel.Proofs.Page.Elements
import AccountPanel.Proofs.Page.Table
import AccountPanel.Proofs.Page.Modal
import AccountPanel.Proofs.Page.Content
import AccountPanel.Proofs.Page.Openings
import AccountPanel.Proofs.Draft
import AccountPanel.Proofs.Site.Request
import AccountPanel.Proofs.Site.Answer
import AccountPanel.Proofs.Site.History
import AccountPanel.Proofs.Store
import AccountPanel.Proofs.Site.Changes
import AccountPanel.Proofs.Site.Calls
import AccountPanel.Proofs.Site.Deletion
import AccountPanel.Proofs.Site.EndPage
import AccountPanel.Proofs.Page.Decoding
import AccountPanel.Proofs.Markup.Outline
import AccountPanel.Proofs.Page.Outline
import AccountPanel.Proofs.Panel
import AccountPanel.Proofs.Site.Outcome
import AccountPanel.Proofs.Site.InFlight
import AccountPanel.Proofs.Site.InTurn
import AccountPanel.Proofs.Json.Strings
import AccountPanel.Proofs.Json.Brackets
import AccountPanel.Proofs.KeyFile
import AccountPanel.Proofs.KeyFile.Loading
import AccountPanel.Proofs.Store.Clients
import AccountPanel.Proofs.Store.Accounting
import AccountPanel.Proofs.Site.Journal
import AccountPanel.Proofs.Site.Tidy
import AccountPanel.Proofs.Page.Browser
import AccountPanel.Proofs.CommandLine.Options
import AccountPanel.Proofs.Http.Record
import AccountPanel.Proofs.Page.Flashes
import AccountPanel.Proofs.Site.AccountPage
import AccountPanel.Proofs.Site.BrowserDeletion
import AccountPanel.Proofs.Program
import AccountPanel.Proofs.Site.Links
import AccountPanel.Proofs.Site.Resubmission
import AccountPanel.Proofs.Site.Understood
