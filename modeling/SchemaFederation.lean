import SchemaFederation.Python.Upper
import SchemaFederation.Python.Builtins
import SchemaFederation.Python.Json
import SchemaFederation.Core.Models
import SchemaFederation.Core.Interfaces
import SchemaFederation.Core.PluginRegistry
import SchemaFederation.Core.Orchestrator.Registries
import SchemaFederation.Core.Orchestrator.CheckSubject
import SchemaFederation.Core.Orchestrator.CrossRegistry
import SchemaFederation.Core.Orchestrator.BulkCheck
import SchemaFederation.Core.Orchestrator.Objects
import SchemaFederation.Python.Requests
import SchemaFederation.Plugins.Shared
import SchemaFederation.Plugins.UnityCatalog.Columns
import SchemaFederation.Plugins.UnityCatalog.Evolution
import SchemaFederation.Plugins.UnityCatalog.Plugin
import SchemaFederation.Plugins.UnityCatalog.Backend
import SchemaFederation.Plugins.Confluent.Plugin
import SchemaFederation.Plugins.Confluent.Backend
import SchemaFederation.Plugins.Confluent.Modes
import SchemaFederation.Api.Endpoints
import SchemaFederation.Api.Lifespan
import SchemaFederation.Api.Credentials
